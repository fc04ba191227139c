import ParacordFederation.Store

/-!
Mirroring the shared guild into the other nodes' stores. Before any federation traffic both
scripts copy the guild made on node A into B's and C's SQLite stores: the e2e script with
`clone_shared_guild_and_channel` (one channel), the live one with
`clone_shared_guild_and_channels` (several channels, and the owner's membership and role
assignments). Each runs in `with db_connect("a") as src, db_connect(target) as dst`, whose
context manager commits when the block ends and rolls back when it raises: the value of a
clone here is what the target holds afterwards, the committed store, or an error after which
the target is as it was.

Each clone is read against a plan, the rows it looks up in the source, found before any insert.
The e2e clone raises before its first insert when a lookup fails, so it is its plan run through
`insertAll`; the live one interleaves lookups with inserts, and agrees with its plan whenever
the plan exists.
-/

namespace ParacordFederation

namespace E2e

/-- `clone_shared_guild_and_channel(guild_id, channel_id, owner_user_id, target_node_key)`, on
node A's store `src` and the target's store `dst`. -/
def cloneSharedGuildAndChannel (schema : Schema) (src : Store) (guildId channelId ownerUserId : Int)
    (dst : Store) : Except PyException Store :=
  let space := (src.select "spaces" [("id", guildId)]).head?
  let channel := (src.select "channels" [("id", channelId)]).head?
  let roles := src.select "roles" [("space_id", guildId)]
  match space, channel with
  | some space, some channel => do
      let dst ← insertRow schema dst "spaces" (space.set "owner_id" (.integer ownerUserId))
      let dst ← insertRow schema dst "channels" channel
      roles.foldlM (fun dst role => insertRow schema dst "roles" role) dst
  | _, _ => .error ⟨"RuntimeError", "Failed to locate source guild/channel in node A database"⟩

def clonePlan (src : Store) (guildId channelId ownerUserId : Int) : Option (List (String × Row)) :=
  match (src.select "spaces" [("id", guildId)]).head?,
      (src.select "channels" [("id", channelId)]).head? with
  | some space, some channel =>
      some (("spaces", space.set "owner_id" (.integer ownerUserId)) :: ("channels", channel) ::
        (src.select "roles" [("space_id", guildId)]).map fun role => ("roles", role))
  | _, _ => none

theorem cloneSharedGuildAndChannel_eq (schema : Schema) (src dst : Store)
    (guildId channelId ownerUserId : Int) :
    cloneSharedGuildAndChannel schema src guildId channelId ownerUserId dst =
      match clonePlan src guildId channelId ownerUserId with
      | some plan => insertAll schema dst plan
      | none => .error ⟨"RuntimeError", "Failed to locate source guild/channel in node A database"⟩ := by
  unfold cloneSharedGuildAndChannel clonePlan
  rcases (src.select "spaces" [("id", guildId)]).head? with _ | space <;>
    rcases (src.select "channels" [("id", channelId)]).head? with _ | channel <;>
    simp [insertAll_cons, insertAll, List.foldlM_map]

theorem cloneSharedGuildAndChannel_error (schema : Schema) (src dst : Store)
    (guildId channelId ownerUserId : Int) (error : PyException)
    (failed : cloneSharedGuildAndChannel schema src guildId channelId ownerUserId dst = .error error) :
    (clonePlan src guildId channelId ownerUserId = none ∧
        error = ⟨"RuntimeError", "Failed to locate source guild/channel in node A database"⟩) ∨
      error = foreignKeyFailed := by
  rw [cloneSharedGuildAndChannel_eq] at failed
  split at failed
  · exact .inr (insertAll_error schema _ dst error failed)
  · exact .inl ⟨‹_›, (Except.error.inj failed).symm⟩

end E2e

namespace Live

/-- `SELECT mr.user_id, mr.role_id FROM member_roles mr JOIN roles r ON r.id = mr.role_id
WHERE mr.user_id = ? AND r.space_id = ?`, the join visiting `member_roles` first. -/
def ownerMemberRoles (src : Store) (userId guildId : Int) : List Row :=
  (src.select "member_roles" [("user_id", userId)]).flatMap fun assignment =>
    ((src.rows "roles").filter fun role =>
        (match role.get "id", assignment.get "role_id" with
          | some id, some roleId => id.sqlEq roleId
          | _, _ => false) && role.eqInt "space_id" guildId).map
      fun _ => assignment.project ["user_id", "role_id"]

def copyChannel (schema : Schema) (src dst : Store) (channelId : Int) : Except PyException Store :=
  match (src.select "channels" [("id", channelId)]).head? with
  | none => .error ⟨"RuntimeError", "Missing source channel " ++ toString channelId⟩
  | some channel => insertRow schema dst "channels" channel

/-- `clone_shared_guild_and_channels(guild_id, channel_ids, source_owner_user_id,
target_owner_user_id, target_node_key)`, on node A's store `src` and the target's store `dst`. -/
def cloneSharedGuildAndChannels (schema : Schema) (src : Store) (guildId : Int)
    (channelIds : List Int) (sourceOwnerUserId targetOwnerUserId : Int) (dst : Store) :
    Except PyException Store :=
  match (src.select "spaces" [("id", guildId)]).head? with
  | none => .error ⟨"RuntimeError", "Failed to locate source guild in node A database"⟩
  | some space => do
      let dst ← insertRow schema dst "spaces" (space.set "owner_id" (.integer targetOwnerUserId))
      let dst ← channelIds.foldlM (copyChannel schema src) dst
      let dst ← (src.select "roles" [("space_id", guildId)]).foldlM
        (fun dst role => insertRow schema dst "roles" role) dst
      let dst ← match (src.select "members"
          [("guild_id", guildId), ("user_id", sourceOwnerUserId)]).head? with
        | some member =>
            insertRow schema dst "members" (member.set "user_id" (.integer targetOwnerUserId))
        | none => pure dst
      (ownerMemberRoles src sourceOwnerUserId guildId).foldlM
        (fun dst roleRow =>
          insertRow schema dst "member_roles" (roleRow.set "user_id" (.integer targetOwnerUserId)))
        dst

def ownerMembership (src : Store) (guildId sourceOwnerUserId targetOwnerUserId : Int) :
    List (String × Row) :=
  ((src.select "members" [("guild_id", guildId), ("user_id", sourceOwnerUserId)]).head?.toList.map
      fun member => ("members", member.set "user_id" (.integer targetOwnerUserId))) ++
    (ownerMemberRoles src sourceOwnerUserId guildId).map
      fun roleRow => ("member_roles", roleRow.set "user_id" (.integer targetOwnerUserId))

def sourceChannels (src : Store) (channelIds : List Int) : Option (List Row) :=
  channelIds.mapM fun channelId => (src.select "channels" [("id", channelId)]).head?

def clonePlan (src : Store) (guildId : Int) (channelIds : List Int)
    (sourceOwnerUserId targetOwnerUserId : Int) : Option (List (String × Row)) := do
  let space ← (src.select "spaces" [("id", guildId)]).head?
  let channels ← sourceChannels src channelIds
  pure (("spaces", space.set "owner_id" (.integer targetOwnerUserId)) ::
    (channels.map fun channel => ("channels", channel)) ++
    ((src.select "roles" [("space_id", guildId)]).map fun role => ("roles", role)) ++
    ownerMembership src guildId sourceOwnerUserId targetOwnerUserId)

section Loop

variable (schema : Schema) (src : Store)

theorem copyChannels_eq : ∀ (channelIds : List Int) (channels : List Row) (dst : Store),
    sourceChannels src channelIds = some channels →
    channelIds.foldlM (copyChannel schema src) dst =
      insertAll schema dst (channels.map fun channel => ("channels", channel))
  | [], channels, dst, found => by
      simp only [sourceChannels, List.mapM_nil, pure, Option.some.injEq] at found
      subst found
      rfl
  | channelId :: rest, channels, dst, found => by
      simp only [sourceChannels, List.mapM_cons, Option.bind_eq_bind, Option.bind_eq_some,
        Option.pure_def, Option.some.injEq] at found
      obtain ⟨channel, first, later, laterFound, rfl⟩ := found
      simp only [List.foldlM_cons, copyChannel, first, List.map_cons, insertAll_cons]
      congr 1
      funext next
      exact copyChannels_eq rest later next laterFound

theorem copyChannels_fails : ∀ (channelIds : List Int) (dst after : Store),
    sourceChannels src channelIds = none → channelIds.foldlM (copyChannel schema src) dst ≠ .ok after
  | [], _, _, missing => by
      simp only [sourceChannels, List.mapM_nil, Option.pure_def] at missing
      cases missing
  | channelId :: rest, dst, after, missing => by
      rw [List.foldlM_cons, Ne, bind_eq_ok]
      rintro ⟨next, copied, ran⟩
      simp only [copyChannel] at copied
      split at copied
      · cases copied
      · rename_i channel first
        have later : sourceChannels src rest = none := by
          cases laterFound : sourceChannels src rest
          · rfl
          · simp only [sourceChannels] at laterFound
            simp only [sourceChannels, List.mapM_cons, first, laterFound, Option.bind_eq_bind,
              Option.some_bind, Option.pure_def] at missing
            cases missing
        exact copyChannels_fails rest next after later ran

theorem copyChannels_error : ∀ (channelIds : List Int) (dst : Store) (error : PyException),
    channelIds.foldlM (copyChannel schema src) dst = .error error →
      (∃ found channelId rest, channelIds = found ++ channelId :: rest ∧
        (∀ c ∈ found, ((src.select "channels" [("id", c)]).head?).isSome) ∧
        (src.select "channels" [("id", channelId)]).head? = none ∧
        error = ⟨"RuntimeError", "Missing source channel " ++ toString channelId⟩) ∨
      error = foreignKeyFailed
  | [], _, _, failed => by cases failed
  | channelId :: rest, dst, error, failed => by
      rw [List.foldlM_cons, bind_eq_error] at failed
      rcases failed with copied | ⟨next, copied, later⟩
      · simp only [copyChannel] at copied
        split at copied
        · exact .inl ⟨[], channelId, rest, rfl, by simp, ‹_›, (Except.error.inj copied).symm⟩
        · exact .inr (insertRow_error copied)
      · have present : ((src.select "channels" [("id", channelId)]).head?).isSome := by
          simp only [copyChannel] at copied
          split at copied
          · cases copied
          · simp [*]
        rcases copyChannels_error rest next error later with
          ⟨found, missing, after, rfl, foundPresent, lacks, rfl⟩ | fk
        · exact .inl ⟨channelId :: found, missing, after, rfl,
            List.forall_mem_cons.2 ⟨present, foundPresent⟩, lacks, rfl⟩
        · exact .inr fk

theorem sourceChannels_of_missing : ∀ {channelIds : List Int} {channelId : Int},
    channelId ∈ channelIds → (src.select "channels" [("id", channelId)]).head? = none →
      sourceChannels src channelIds = none
  | c :: rest, channelId, listed, lacks => by
      rw [sourceChannels, List.mapM_cons]
      rcases List.mem_cons.1 listed with rfl | later
      · rw [lacks]; rfl
      · have missing := sourceChannels_of_missing later lacks
        rw [sourceChannels] at missing
        rw [missing]
        cases (src.select "channels" [("id", c)]).head? <;> rfl

end Loop

theorem cloneSharedGuildAndChannels_eq (schema : Schema) (src dst : Store) (guildId : Int)
    (channelIds : List Int) (sourceOwnerUserId targetOwnerUserId : Int) {plan : List (String × Row)}
    (planned : clonePlan src guildId channelIds sourceOwnerUserId targetOwnerUserId = some plan) :
    cloneSharedGuildAndChannels schema src guildId channelIds sourceOwnerUserId targetOwnerUserId dst =
      insertAll schema dst plan := by
  simp only [clonePlan, Option.bind_eq_bind, Option.bind_eq_some, Option.pure_def,
    Option.some.injEq] at planned
  obtain ⟨space, found, channels, channelsFound, rfl⟩ := planned
  simp only [cloneSharedGuildAndChannels, found, copyChannels_eq schema src channelIds channels _
    channelsFound, insertAll_cons, List.cons_append, insertAll_append, bind_assoc, ownerMembership]
  congr 1; funext dst; congr 1; funext dst
  rw [insertAll, List.foldlM_map]; congr 1; funext dst
  split <;> simp [insertAll, List.foldlM_map, *]

theorem sourceChannels_eq_none {src : Store} {guildId : Int} {channelIds : List Int}
    {sourceOwnerUserId targetOwnerUserId : Int} {space : Row}
    (found : (src.select "spaces" [("id", guildId)]).head? = some space)
    (missing : clonePlan src guildId channelIds sourceOwnerUserId targetOwnerUserId = none) :
    sourceChannels src channelIds = none := by
  cases channelsFound : sourceChannels src channelIds
  · rfl
  · simp [clonePlan, found, channelsFound] at missing

theorem cloneSharedGuildAndChannels_ne_ok (schema : Schema) (src dst after : Store) (guildId : Int)
    (channelIds : List Int) (sourceOwnerUserId targetOwnerUserId : Int)
    (missing : clonePlan src guildId channelIds sourceOwnerUserId targetOwnerUserId = none) :
    cloneSharedGuildAndChannels schema src guildId channelIds sourceOwnerUserId targetOwnerUserId dst ≠
      .ok after := by
  unfold cloneSharedGuildAndChannels
  split
  · exact fun raised => by cases raised
  · rw [Ne, bind_eq_ok]
    rintro ⟨next, -, ran⟩
    obtain ⟨copied, loop, -⟩ := bind_eq_ok.1 ran
    exact copyChannels_fails schema src channelIds next copied (sourceChannels_eq_none ‹_› missing)
      loop

theorem cloneSharedGuildAndChannels_ok_iff (schema : Schema) (src dst after : Store) (guildId : Int)
    (channelIds : List Int) (sourceOwnerUserId targetOwnerUserId : Int) :
    cloneSharedGuildAndChannels schema src guildId channelIds sourceOwnerUserId targetOwnerUserId dst =
        .ok after ↔
      ∃ plan, clonePlan src guildId channelIds sourceOwnerUserId targetOwnerUserId = some plan ∧
        insertAll schema dst plan = .ok after := by
  cases planned : clonePlan src guildId channelIds sourceOwnerUserId targetOwnerUserId with
  | none =>
      simpa using cloneSharedGuildAndChannels_ne_ok schema src dst after guildId channelIds
        sourceOwnerUserId targetOwnerUserId planned
  | some plan =>
      simp [cloneSharedGuildAndChannels_eq schema src dst guildId channelIds sourceOwnerUserId
        targetOwnerUserId planned]

theorem cloneSharedGuildAndChannels_error (schema : Schema) (src dst : Store) (guildId : Int)
    (channelIds : List Int) (sourceOwnerUserId targetOwnerUserId : Int) (error : PyException)
    (failed : cloneSharedGuildAndChannels schema src guildId channelIds sourceOwnerUserId
      targetOwnerUserId dst = .error error) :
    ((src.select "spaces" [("id", guildId)]).head? = none ∧
        error = ⟨"RuntimeError", "Failed to locate source guild in node A database"⟩) ∨
      (∃ found channelId rest, channelIds = found ++ channelId :: rest ∧
        (∀ c ∈ found, ((src.select "channels" [("id", c)]).head?).isSome) ∧
        (src.select "channels" [("id", channelId)]).head? = none ∧
        error = ⟨"RuntimeError", "Missing source channel " ++ toString channelId⟩) ∨
      error = foreignKeyFailed := by
  cases planned : clonePlan src guildId channelIds sourceOwnerUserId targetOwnerUserId with
  | some plan =>
      rw [cloneSharedGuildAndChannels_eq schema src dst guildId channelIds sourceOwnerUserId
        targetOwnerUserId planned] at failed
      exact .inr (.inr (insertAll_error schema plan dst error failed))
  | none =>
      unfold cloneSharedGuildAndChannels at failed
      split at failed
      · exact .inl ⟨‹_›, (Except.error.inj failed).symm⟩
      · rcases bind_eq_error.1 failed with spaceFailed | ⟨next, -, failed⟩
        · exact .inr (.inr (insertRow_error spaceFailed))
        rcases bind_eq_error.1 failed with channelFailed | ⟨copied, loop, -⟩
        · exact .inr (copyChannels_error schema src channelIds next error channelFailed)
        · exact absurd loop (copyChannels_fails schema src channelIds next copied
            (sourceChannels_eq_none ‹_› planned))

end Live

theorem Live.clonePlan_single (src : Store) (guildId channelId sourceOwnerUserId
    targetOwnerUserId : Int) :
    Live.clonePlan src guildId [channelId] sourceOwnerUserId targetOwnerUserId =
      (E2e.clonePlan src guildId channelId targetOwnerUserId).map
        (· ++ Live.ownerMembership src guildId sourceOwnerUserId targetOwnerUserId) := by
  simp only [Live.clonePlan, E2e.clonePlan, Live.sourceChannels, List.mapM_cons, List.mapM_nil]
  rcases (src.select "spaces" [("id", guildId)]).head? with _ | space <;>
    rcases (src.select "channels" [("id", channelId)]).head? with _ | channel <;> simp

/-- The key columns of the tables the clones write, as the server's migrations declare them. -/
def keyColumns : String → List String
  | "members" => ["guild_id", "user_id"]
  | "member_roles" => ["user_id", "role_id"]
  | _ => ["id"]

/-- A schema with those keys, no row constraints, and a `members` or `member_roles` row's
`user_id` referencing `users`. -/
def keyedSchema : Schema where
  checks _ _ := true
  collides table stored row := (keyColumns table).all fun column => stored.get column == row.get column
  resolves store table row := !(table == "members" || table == "member_roles") ||
    (store.rows "users").any fun user => user.get "id" == row.get "user_id"

def guildSource : Store :=
  ⟨[("spaces", [⟨[("id", .integer 1), ("name", .text "shared"), ("owner_id", .integer 10)]⟩]),
    ("channels", [⟨[("id", .integer 2), ("space_id", .integer 1), ("name", .text "general")]⟩]),
    ("roles", [⟨[("id", .integer 3), ("space_id", .integer 1), ("name", .text "@everyone")]⟩]),
    ("members", [⟨[("guild_id", .integer 1), ("user_id", .integer 10)]⟩]),
    ("member_roles", [⟨[("user_id", .integer 10), ("role_id", .integer 3)]⟩])]⟩

def guildTarget : Store := ⟨[("users", [⟨[("id", .integer 20)]⟩])]⟩

def guildMirror : Store :=
  ⟨[("users", [⟨[("id", .integer 20)]⟩]),
    ("spaces", [⟨[("id", .integer 1), ("name", .text "shared"), ("owner_id", .integer 20)]⟩]),
    ("channels", [⟨[("id", .integer 2), ("space_id", .integer 1), ("name", .text "general")]⟩]),
    ("roles", [⟨[("id", .integer 3), ("space_id", .integer 1), ("name", .text "@everyone")]⟩]),
    ("members", [⟨[("guild_id", .integer 1), ("user_id", .integer 20)]⟩]),
    ("member_roles", [⟨[("user_id", .integer 20), ("role_id", .integer 3)]⟩])]⟩

/-- Running either clone again on the store it produced changes nothing and raises nothing. -/
theorem clones_idempotent (schema : Schema) (keyed : schema.Keyed) (src dst mirrored : Store)
    (guildId : Int) :
    (∀ channelId ownerUserId,
      E2e.cloneSharedGuildAndChannel schema src guildId channelId ownerUserId dst = .ok mirrored →
      E2e.cloneSharedGuildAndChannel schema src guildId channelId ownerUserId mirrored =
        .ok mirrored) ∧
    (∀ channelIds sourceOwnerUserId targetOwnerUserId,
      Live.cloneSharedGuildAndChannels schema src guildId channelIds sourceOwnerUserId
        targetOwnerUserId dst = .ok mirrored →
      Live.cloneSharedGuildAndChannels schema src guildId channelIds sourceOwnerUserId
        targetOwnerUserId mirrored = .ok mirrored) := by
  refine ⟨fun channelId ownerUserId cloned => ?_, fun channelIds sourceOwnerUserId targetOwnerUserId
    cloned => ?_⟩
  · rw [E2e.cloneSharedGuildAndChannel_eq] at cloned ⊢
    split at cloned
    · exact insertAll_idempotent schema keyed cloned
    · cases cloned
  · obtain ⟨plan, planned, ran⟩ := (Live.cloneSharedGuildAndChannels_ok_iff ..).1 cloned
    rw [Live.cloneSharedGuildAndChannels_eq schema src mirrored guildId channelIds sourceOwnerUserId
      targetOwnerUserId planned]
    exact insertAll_idempotent schema keyed ran

theorem clones_idempotent_on_guildMirror :
    keyedSchema.Keyed ∧
      Live.cloneSharedGuildAndChannels keyedSchema guildSource 1 [2] 10 20 guildTarget =
        .ok guildMirror ∧
      Live.cloneSharedGuildAndChannels keyedSchema guildSource 1 [2] 10 20 guildMirror =
        .ok guildMirror :=
  have keyed : keyedSchema.Keyed := fun _ _ => by simp [keyedSchema]
  ⟨keyed, rfl, (clones_idempotent keyedSchema keyed guildSource guildTarget guildMirror 1).2
    [2] 10 20 rfl⟩

/-- For one channel, the live clone is the e2e clone with the target owner, followed by the copy of
the source owner's membership. -/
theorem cloneSharedGuildAndChannels_extends_e2e (schema : Schema) (src dst after : Store)
    (guildId channelId sourceOwnerUserId targetOwnerUserId : Int) :
    Live.cloneSharedGuildAndChannels schema src guildId [channelId] sourceOwnerUserId
        targetOwnerUserId dst = .ok after ↔
      ∃ mirrored,
        E2e.cloneSharedGuildAndChannel schema src guildId channelId targetOwnerUserId dst =
          .ok mirrored ∧
        insertAll schema mirrored
          (Live.ownerMembership src guildId sourceOwnerUserId targetOwnerUserId) = .ok after := by
  rw [Live.cloneSharedGuildAndChannels_ok_iff, E2e.cloneSharedGuildAndChannel_eq,
    Live.clonePlan_single]
  cases E2e.clonePlan src guildId channelId targetOwnerUserId <;>
    simp [insertAll_append, bind_eq_ok]

/-- `AddsOwned before after table column owner`: `after` holds the rows of `table` it held in
`before`, followed by rows whose `column` is `owner`. -/
def AddsOwned (before after : Store) (table column : String) (owner : Int) : Prop :=
  ∃ added, after.rows table = before.rows table ++ added ∧
    ∀ row ∈ added, row.get column = some (.integer owner)

theorem Grows.addsOwned {before after : Store} {plan : List (String × Row)}
    (grown : Grows before plan after) {table column : String} {owner : Int}
    (owned : ∀ row, (table, row) ∈ plan → row.get column = some (.integer owner)) :
    AddsOwned before after table column owner := by
  obtain ⟨added, grows, planned⟩ := grown.added_planned table
  exact ⟨added, grows, fun row mem => owned row (planned row mem)⟩

/-- Every row either clone adds to `spaces` is owned by the target's owner, and every row the live
clone adds to `members` or `member_roles` is the target owner's. -/
theorem clones_hand_guild_to_target_owner (schema : Schema) (src dst after : Store)
    (guildId : Int) :
    (∀ channelId ownerUserId,
      E2e.cloneSharedGuildAndChannel schema src guildId channelId ownerUserId dst = .ok after →
      AddsOwned dst after "spaces" "owner_id" ownerUserId) ∧
    (∀ channelIds sourceOwnerUserId targetOwnerUserId,
      Live.cloneSharedGuildAndChannels schema src guildId channelIds sourceOwnerUserId
        targetOwnerUserId dst = .ok after →
      AddsOwned dst after "spaces" "owner_id" targetOwnerUserId ∧
        AddsOwned dst after "members" "user_id" targetOwnerUserId ∧
        AddsOwned dst after "member_roles" "user_id" targetOwnerUserId) := by
  refine ⟨fun channelId ownerUserId cloned => ?_, fun channelIds sourceOwnerUserId targetOwnerUserId
    cloned => ?_⟩
  · rw [E2e.cloneSharedGuildAndChannel_eq] at cloned
    split at cloned
    · rename_i plan planned
      refine (insertAll_grows schema plan dst after cloned).addsOwned fun row mem => ?_
      simp only [E2e.clonePlan] at planned
      split at planned
      · cases planned
        simp at mem
        subst mem
        exact Row.get_set ..
      · cases planned
    · cases cloned
  · obtain ⟨plan, planned, ran⟩ := (Live.cloneSharedGuildAndChannels_ok_iff ..).1 cloned
    have grown := insertAll_grows schema plan dst after ran
    simp only [Live.clonePlan, Option.bind_eq_bind, Option.bind_eq_some, Option.pure_def,
      Option.some.injEq] at planned
    obtain ⟨space, -, channels, -, rfl⟩ := planned
    refine ⟨grown.addsOwned fun row mem => ?_, grown.addsOwned fun row mem => ?_,
      grown.addsOwned fun row mem => ?_⟩ <;> simp [Live.ownerMembership] at mem
    · subst mem
      exact Row.get_set ..
    all_goals
      obtain ⟨_, -, rfl⟩ := mem
      exact Row.get_set ..

theorem missingChannel_ne_missingGuild (channelId : Int) :
    "Missing source channel " ++ toString channelId ≠
      "Failed to locate source guild in node A database" := by
  intro same
  simpa using congrArg (fun text => text.data.head?) same

/-- The errors the clones raise, and when. The e2e clone raises its own error exactly when node A
lacks the guild or the channel, whatever the target holds, so before any insert; the live one
raises its own exactly when node A lacks the guild, and names the first listed channel node A
lacks. Every other error is a foreign key that does not resolve in the target. -/
theorem clones_raise (schema : Schema) (src dst : Store) (guildId : Int) :
    (∀ channelId ownerUserId,
      (E2e.cloneSharedGuildAndChannel schema src guildId channelId ownerUserId dst =
          .error ⟨"RuntimeError", "Failed to locate source guild/channel in node A database"⟩ ↔
        E2e.clonePlan src guildId channelId ownerUserId = none) ∧
      ∀ error, E2e.cloneSharedGuildAndChannel schema src guildId channelId ownerUserId dst =
          .error error →
        (E2e.clonePlan src guildId channelId ownerUserId = none ∧
          error = ⟨"RuntimeError", "Failed to locate source guild/channel in node A database"⟩) ∨
        error = foreignKeyFailed) ∧
    (∀ channelIds sourceOwnerUserId targetOwnerUserId,
      (Live.cloneSharedGuildAndChannels schema src guildId channelIds sourceOwnerUserId
          targetOwnerUserId dst =
          .error ⟨"RuntimeError", "Failed to locate source guild in node A database"⟩ ↔
        (src.select "spaces" [("id", guildId)]).head? = none) ∧
      ((∃ channelId ∈ channelIds, (src.select "channels" [("id", channelId)]).head? = none) →
        ∃ error, Live.cloneSharedGuildAndChannels schema src guildId channelIds sourceOwnerUserId
          targetOwnerUserId dst = .error error) ∧
      ∀ error, Live.cloneSharedGuildAndChannels schema src guildId channelIds sourceOwnerUserId
          targetOwnerUserId dst = .error error →
        ((src.select "spaces" [("id", guildId)]).head? = none ∧
          error = ⟨"RuntimeError", "Failed to locate source guild in node A database"⟩) ∨
        (∃ found channelId rest, channelIds = found ++ channelId :: rest ∧
          (∀ c ∈ found, ((src.select "channels" [("id", c)]).head?).isSome) ∧
          (src.select "channels" [("id", channelId)]).head? = none ∧
          error = ⟨"RuntimeError", "Missing source channel " ++ toString channelId⟩) ∨
        error = foreignKeyFailed) := by
  refine ⟨fun channelId ownerUserId => ⟨⟨fun failed => ?_, fun missing => ?_⟩,
    E2e.cloneSharedGuildAndChannel_error schema src dst guildId channelId ownerUserId⟩,
    fun channelIds sourceOwnerUserId targetOwnerUserId => ⟨⟨fun failed => ?_, fun missing => ?_⟩,
    fun ⟨channelId, listed, lacks⟩ => ?_,
    Live.cloneSharedGuildAndChannels_error schema src dst guildId channelIds sourceOwnerUserId
      targetOwnerUserId⟩⟩
  · rcases E2e.cloneSharedGuildAndChannel_error schema src dst guildId channelId ownerUserId _
      failed with ⟨missing, -⟩ | fk
    · exact missing
    · exact absurd fk (by decide)
  · simp [E2e.cloneSharedGuildAndChannel_eq, missing]
  · rcases Live.cloneSharedGuildAndChannels_error schema src dst guildId channelIds
      sourceOwnerUserId targetOwnerUserId _ failed with
      ⟨missing, -⟩ | ⟨-, channelId, -, -, -, -, named⟩ | fk
    · exact missing
    · exact absurd (PyException.mk.inj named).2 (missingChannel_ne_missingGuild channelId).symm
    · exact absurd fk (by decide)
  · simp [Live.cloneSharedGuildAndChannels, missing]
  · have unplanned : Live.clonePlan src guildId channelIds sourceOwnerUserId targetOwnerUserId =
        none := by
      simp [Live.clonePlan, Live.sourceChannels_of_missing src listed lacks]
    cases cloned : Live.cloneSharedGuildAndChannels schema src guildId channelIds sourceOwnerUserId
        targetOwnerUserId dst with
    | error error => exact ⟨error, rfl⟩
    | ok after => exact absurd cloned (Live.cloneSharedGuildAndChannels_ne_ok schema src dst after
        guildId channelIds sourceOwnerUserId targetOwnerUserId unplanned)

end ParacordFederation
