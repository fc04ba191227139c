import ParacordFederation.Double
import ParacordFederation.Python
import ParacordFederation.Gateway.Wire
import ParacordFederation.Gateway.Client
import ParacordFederation.Gateway.Steps
import ParacordFederation.Gateway.Backlog
import ParacordFederation.Gateway.Transcript
import ParacordFederation.Gateway.Heartbeat
import ParacordFederation.Gateway.Lifecycle
import ParacordFederation.WaitUntil
import ParacordFederation.LiveMain
import ParacordFederation.StateInspector
import ParacordFederation.Relay
import ParacordFederation.Store
import ParacordFederation.Clone
