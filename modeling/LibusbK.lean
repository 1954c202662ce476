import LibusbK.Lib.Machine
import LibusbK.Driver.Framework
import LibusbK.Driver.Bulk
import LibusbK.Driver.BulkQueue
import LibusbK.Driver.BulkStream
import LibusbK.Driver.BulkStatus
import LibusbK.Driver.BulkZlp
import LibusbK.Driver.Iso
import LibusbK.Driver.IsoBounds
import LibusbK.Driver.Control
import LibusbK.Driver.PipeQueue
import LibusbK.Dll.Stream
import LibusbK.Dll.StreamThread
import LibusbK.Dll.StreamOverlapped
import LibusbK.Dll.DescriptorWalk
import LibusbK.Dll.StreamRead
import LibusbK.Dll.DescriptorBounds
import LibusbK.Dll.StackGrouping
import LibusbK.Dll.DescriptorStack
import LibusbK.Driver.Configure
import LibusbK.Driver.DefaultQueue
import LibusbK.Driver.Direction
import LibusbK.Driver.PipeInvariant
import LibusbK.Dll.PoolAcquire
import LibusbK.Driver.InterfaceClaim
import LibusbK.Driver.PipeReset
import LibusbK.Dll.StreamApcs
import LibusbK.Dll.StreamItems
import LibusbK.Dll.OverlappedPool
import LibusbK.Dll.OverlappedWait
import LibusbK.Dll.StreamSemaphore
import LibusbK.Dll.StreamStart
import LibusbK.Driver.FileHandle
import LibusbK.Driver.IsoFrames
import LibusbK.Driver.PolicyRace
import LibusbK.Dll.DeviceSync
import LibusbK.Dll.HotPlug
import LibusbK.Dll.StreamIo
import LibusbK.Dll.StreamIn
import LibusbK.Dll.StreamOut
import LibusbK.Dll.DeviceAttach
import LibusbK.Dll.DeviceCalls
import LibusbK.Dll.HotNotify
import LibusbK.Dll.HotRegister
import LibusbK.Dll.HotShortcut
import LibusbK.Dll.InterfaceSlots
import LibusbK.Dll.StackRebuild
import LibusbK.Dll.WinUsb
import LibusbK.Dll.WinUsbRouting
import LibusbK.Dll.SettingMirror
import LibusbK.Driver.ArrayBounds
import LibusbK.Driver.BulkRefused
import LibusbK.Driver.BulkStages
import LibusbK.Driver.IsoCompact
import LibusbK.Driver.IsoLayout
import LibusbK.Driver.PolicyQuery
import LibusbK.Dll.ControlMessage
import LibusbK.Driver.ControlDecode
import LibusbK.Dll.DependentHandles
import LibusbK.Dll.CleanupCallback
import LibusbK.Dll.SlotHistory
import LibusbK.Dll.IsochBounds
import LibusbK.Dll.IsochFrames
import LibusbK.Dll.PathMatch
import LibusbK.Driver.PolicyReads
import LibusbK.Dll.DeviceClone
import LibusbK.Dll.DeviceCursor
import LibusbK.Dll.StreamCallbacks
import LibusbK.Dll.StreamSizes
import LibusbK.Dll.StreamWriteUndo
import LibusbK.Dll.AssociatedInterface
import LibusbK.Dll.ClaimedFlags
import LibusbK.Lib.HexFormat
import LibusbK.Dll.GuidText
import LibusbK.Dll.CommonInfo
import LibusbK.Dll.LegacyTransfer
import LibusbK.Dll.SyncTimeout
import LibusbK.Lib.MultiString
import LibusbK.Dll.RegistryGuids
import LibusbK.Dll.SelectedPipe
import LibusbK.Lib.Appending
import LibusbK.Dll.PatternListing
import LibusbK.Dll.PatternAgreement
import LibusbK.Lib.Tokens
import LibusbK.Dll.OpenHandles
import LibusbK.Dll.HandleLedger
import LibusbK.Dll.HandleFacts
import LibusbK.Dll.HandleSteps
import LibusbK.Dll.DeviceLifetime
import LibusbK.Dll.StackListing
import LibusbK.Dll.IsoRefinement
import LibusbK.Driver.PowerSettings
import LibusbK.Dll.ConfigSearch
import LibusbK.Dll.TransferTimeouts
import LibusbK.Dll.HotCoverage
import LibusbK.Dll.ContextRuns
