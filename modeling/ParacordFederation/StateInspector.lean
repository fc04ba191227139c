import ParacordFederation.Python

/-!
The state inspector: the `SELECT`s both scripts run on a node's SQLite store to see what
federation has replicated there. A table is the list of its rows in `rowid` order, which is
the order `fetchone` sees when a query has no `ORDER BY`; a join visits the map row first.
-/

namespace ParacordFederation

/-- A row of `federation_delivery_attempts`. -/
structure DeliveryAttempt where
  eventId : String
  destinationServer : String

/-- A row of `federation_message_map`. -/
structure MessageMapRow where
  originServer : String
  remoteMessageId : String
  localMessageId : Int

structure MessageRow where
  id : Int
  channelId : Int
  content : String

structure ReactionRow where
  messageId : Int
  emojiName : String

/-- A row of `federation_remote_users`. -/
structure RemoteUserRow where
  remoteUserId : String
  localUserId : Int

structure MemberRow where
  userId : Int
  guildId : Int

/-- A row of `federated_servers`. -/
structure FederatedServer where
  serverName : String
  trusted : Bool

/-- The tables of one node's store that the scripts read; `federationEvents` holds the
`event_id` column of `federation_events`. -/
structure NodeStore where
  deliveryAttempts : List DeliveryAttempt
  federationEvents : List String
  messageMap : List MessageMapRow
  messages : List MessageRow
  reactions : List ReactionRow
  remoteUsers : List RemoteUserRow
  members : List MemberRow

namespace NodeStore

variable (store : NodeStore)

def countDeliveryAttempts (eventId destination : String) : Nat :=
  (store.deliveryAttempts.filter fun row =>
    row.eventId == eventId && row.destinationServer == destination).length

def countFederationEvents (eventId : String) : Nat :=
  (store.federationEvents.filter (· == eventId)).length

def mappings (originServer remoteMessageId : String) : List MessageMapRow :=
  store.messageMap.filter fun row =>
    row.originServer == originServer && row.remoteMessageId == remoteMessageId

/-- Python's `mapped_message_content`: the content of the first local message a mapping row
of the remote message points at (`JOIN messages m ON m.id = fm.local_message_id ... LIMIT 1`). -/
def mappedMessageContent (originServer remoteMessageId : String) : Option String :=
  (store.mappings originServer remoteMessageId).findSome? fun mapping =>
    (store.messages.find? fun message => message.id == mapping.localMessageId).map (·.content)

def countMessagesWithId (id : Int) : Nat :=
  (store.messages.filter fun message => message.id == id).length

/-- Python's `reaction_count`: the rows of the join of the remote message's map rows with the
reactions with that emoji on their local messages. -/
def reactionCount (originServer remoteMessageId emoji : String) : Nat :=
  ((store.mappings originServer remoteMessageId).flatMap fun mapping =>
    store.reactions.filter fun reaction =>
      reaction.messageId == mapping.localMessageId && reaction.emojiName == emoji).length

/-- `SELECT local_user_id FROM federation_remote_users WHERE remote_user_id = ?`, then
`fetchone()`. -/
def localUserOf (remoteUserId : String) : Option Int :=
  (store.remoteUsers.find? fun row => row.remoteUserId == remoteUserId).map (·.localUserId)

def countMembers (userId guildId : Int) : Nat :=
  (store.members.filter fun row => row.userId == userId && row.guildId == guildId).length

def remoteMemberPresent (remoteUserId : String) (guildId : Int) : Bool :=
  match store.localUserOf remoteUserId with
  | none => false
  | some localUserId => decide (store.countMembers localUserId guildId > 0)

/-- Python's `remote_member_absent`, the same in both scripts: it too is false while the
remote user has no local mapping. -/
def remoteMemberAbsent (remoteUserId : String) (guildId : Int) : Bool :=
  match store.localUserOf remoteUserId with
  | none => false
  | some localUserId => store.countMembers localUserId guildId == 0

def messagePresent (channelId : Int) (content : String) : Bool :=
  decide ((store.messages.filter fun message =>
    message.channelId == channelId && message.content == content).length > 0)

end NodeStore

/-- `SELECT server_name FROM federated_servers WHERE trusted = TRUE`, in `rowid` order, as
`[str(r["server_name"]) for r in peers]`. -/
def trustedPeerNames (servers : List FederatedServer) : List String :=
  (servers.filter (·.trusted)).map (·.serverName)

namespace Live

/-- Python's `mapped_message_absent` of the live script: no mapped local message is left. -/
def mappedMessageAbsent (store : NodeStore) (originServer remoteMessageId : String) : Bool :=
  (store.mappedMessageContent originServer remoteMessageId).isNone

end Live

namespace E2e

/-- The `mapped_message_absent` check of the e2e script: it looks only at the first mapping
row, and counts an unmapped message as absent. -/
def mappedMessageAbsent (store : NodeStore) (originServer remoteMessageId : String) : Bool :=
  match (store.mappings originServer remoteMessageId).head? with
  | none => true
  | some mapping => store.countMessagesWithId mapping.localMessageId == 0

end E2e

/-! ## What the checks decide -/

/-- The foreign key `reactions.message_id REFERENCES messages(id)`: every reaction row names a
message the store holds. -/
def NodeStore.ReactionsResolve (store : NodeStore) : Prop :=
  ∀ reaction ∈ store.reactions, ∃ message ∈ store.messages, message.id = reaction.messageId

instance (store : NodeStore) : Decidable store.ReactionsResolve := by
  unfold NodeStore.ReactionsResolve; infer_instance

/-- While reactions keep their foreign key, the live script's last two checks on a replicated
message never disagree: once `mapped_message_absent` holds, `reaction_count` reads 0 for every
emoji, and a positive `reaction_count` means the mapped message is still there. -/
theorem absent_message_has_no_reactions (store : NodeStore) (originServer remoteMessageId emoji : String)
    (resolves : store.ReactionsResolve)
    (absent : Live.mappedMessageAbsent store originServer remoteMessageId = true) :
    store.reactionCount originServer remoteMessageId emoji = 0 := by
  simp only [Live.mappedMessageAbsent, NodeStore.mappedMessageContent, Option.isNone_iff_eq_none,
    List.findSome?_eq_none_iff, Option.map_eq_none', List.find?_eq_none] at absent
  simp only [NodeStore.reactionCount, List.length_eq_zero, List.flatMap_eq_nil_iff,
    List.filter_eq_nil_iff, Bool.and_eq_true, beq_iff_eq, not_and]
  intro mapping mapped reaction reacted named _
  obtain ⟨message, held, same⟩ := resolves reaction reacted
  exact absent mapping mapped message held (by simp [same, named])

def deletedStore : NodeStore :=
  ⟨[], [], [⟨"a", "7", 11⟩], [⟨12, 1, "other"⟩], [⟨12, "thumbsup"⟩], [], []⟩

theorem absent_message_has_no_reactions_on_deletedStore :
    deletedStore.ReactionsResolve ∧ Live.mappedMessageAbsent deletedStore "a" "7" = true ∧
      deletedStore.reactionCount "a" "7" "thumbsup" = 0 :=
  have resolves : deletedStore.ReactionsResolve := by decide
  have absent : Live.mappedMessageAbsent deletedStore "a" "7" = true := by decide
  ⟨resolves, absent, absent_message_has_no_reactions deletedStore "a" "7" "thumbsup" resolves absent⟩

end ParacordFederation
