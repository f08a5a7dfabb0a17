import TmuxRemote.Library.Reactive
import TmuxRemote.Library.Guarded
import TmuxRemote.Library.Trapping
import TmuxRemote.Library.CString
import TmuxRemote.Library.SlotTable
import TmuxRemote.Library.CappedWalk
import TmuxRemote.Library.Memory
import TmuxRemote.Library.Numbered
import TmuxRemote.Library.Entries
import TmuxRemote.Library.LinkedQueue
import TmuxRemote.Library.Handover
import TmuxRemote.Library.Ownership
import TmuxRemote.Library.BigEndian
import TmuxRemote.Library.Utf8
import TmuxRemote.Library.Split
import TmuxRemote.Library.Joined
import TmuxRemote.Library.StringBuffer
import TmuxRemote.Library.Graphemes
import TmuxRemote.Library.Framing
import TmuxRemote.Library.Cbor
import TmuxRemote.Library.CborEncoder
import TmuxRemote.Library.Sheet
import TmuxRemote.Library.RowMajor
import TmuxRemote.Library.Search
import TmuxRemote.Library.Positions
import TmuxRemote.Library.Cursor
import TmuxRemote.Terminal.State
import TmuxRemote.Terminal.WellFormed
import TmuxRemote.Terminal.Machine
import TmuxRemote.Terminal.Representation
import TmuxRemote.Terminal.Scrolling
import TmuxRemote.Terminal.Erase
import TmuxRemote.Terminal.Text
import TmuxRemote.Terminal.Escapes
import TmuxRemote.Prompt.Instance
import TmuxRemote.Prompt.Rules
import TmuxRemote.Prompt.Menus
import TmuxRemote.Prompt.ScanWindow
import TmuxRemote.Prompt.Selection
import TmuxRemote.Prompt.TextBounds
import TmuxRemote.Prompt.PatternConfig
import TmuxRemote.Prompt.StaticRules
import TmuxRemote.Prompt.Identity
import TmuxRemote.Prompt.Lifecycle
import TmuxRemote.Prompt.Presentations
import TmuxRemote.Prompt.Suppression
import TmuxRemote.Prompt.Debounce
import TmuxRemote.Prompt.Detector
import TmuxRemote.Prompt.Chunking
import TmuxRemote.Prompt.Redraw
import TmuxRemote.Agent.TmuxSessions
import TmuxRemote.Agent.TmuxListing
import TmuxRemote.Agent.TmuxProcess
import TmuxRemote.Agent.ControlStream
import TmuxRemote.Agent.SessionSync
import TmuxRemote.Agent.Reaper
import TmuxRemote.Agent.Locks
import TmuxRemote.Agent.Deadlocks
import TmuxRemote.Agent.SessionMap
import TmuxRemote.Agent.SessionTable
import TmuxRemote.Agent.Requests
import TmuxRemote.Agent.Connections
import TmuxRemote.Agent.Geometry
import TmuxRemote.Agent.Recording
import TmuxRemote.Agent.IamStateFile
import TmuxRemote.Agent.StateSaver
import TmuxRemote.Wire.ControlFrames
import TmuxRemote.Wire.AppDecoder
import TmuxRemote.Wire.DecoderTraps
import TmuxRemote.Wire.PromptEvents
import TmuxRemote.Wire.SessionListing
import TmuxRemote.Wire.ResolveMessages
import TmuxRemote.Wire.PairingString
import TmuxRemote.Agent.App
import TmuxRemote.Agent.Authorization
import TmuxRemote.Agent.Noninterference
import TmuxRemote.Agent.PromptRouting
import TmuxRemote.Agent.PromptDelivery
import TmuxRemote.Agent.CoapHandler
import TmuxRemote.Agent.CoapAccounts
import TmuxRemote.Agent.CoapSteps
import TmuxRemote.Agent.CoapRequests
import TmuxRemote.Agent.StreamTeardown
import TmuxRemote.Agent.TeardownOrder
import TmuxRemote.Agent.TeardownRun
import TmuxRemote.Wire.ClientRequests
import TmuxRemote.Wire.ListedNames
import TmuxRemote.Cli.Bookmarks
import TmuxRemote.Cli.JsonText
import TmuxRemote.Cli.JsonBounds
import TmuxRemote.Cli.JsonStrings
import TmuxRemote.Cli.JsonRoundTrip
import TmuxRemote.Cli.JsonFiles
import TmuxRemote.Cli.Attach
import TmuxRemote.Cli.RelaySafety
import TmuxRemote.Cli.RelayEnd
import TmuxRemote.Cli.RelayWindow
import TmuxRemote.Cli.Pairing
import TmuxRemote.Cli.Renaming
import TmuxRemote.Cli.OtherBookmarks
import TmuxRemote.Agent.KeyNames
import TmuxRemote.Agent.KeyStorage
import TmuxRemote.Agent.PatternFiles
import TmuxRemote.Agent.PromptRules
import TmuxRemote.Agent.Init
import TmuxRemote.Agent.PairingNotices
import TmuxRemote.Ios.PatternEngine
import TmuxRemote.Ios.Overlay
import TmuxRemote.Ios.MinimumVisible
import TmuxRemote.Ios.ControlStreams
import TmuxRemote.Ios.SupersededStreams
import TmuxRemote.Ios.ConnectionCache
import TmuxRemote.Ios.Reconnect
import TmuxRemote.Ios.Typing
import TmuxRemote.Ios.DataStreams
import TmuxRemote.Ios.SessionSwitch
import TmuxRemote.Ios.PromptPath
import TmuxRemote.Ios.DeviceList
import TmuxRemote.Ios.Resume
import TmuxRemote.Library.FallibleFold
import TmuxRemote.Wire.EntryOrder
import TmuxRemote.Wire.AppRequests
