import OriTerm.Core.MarkBounds
import OriTerm.Core.PutCharRounds
import OriTerm.Core.ResizeCursor
import OriTerm.Core.ScrollbackQueue
import OriTerm.Core.Paste
import OriTerm.Core.SgrMasks
import OriTerm.Image.Atomic
import OriTerm.Image.Blend
import OriTerm.Image.Generation
import OriTerm.Image.Iterm2Base64
import OriTerm.Image.RowMap
import OriTerm.Image.SixelLimits
import OriTerm.Term.CursorReport
import OriTerm.Term.ImageIds
import OriTerm.Term.KittyDelete
import OriTerm.Term.Keyboard
import OriTerm.Term.SearchCells
import OriTerm.Term.UniformWidth
import OriTerm.Mux.DecodeSound
import OriTerm.Mux.EffectRouter
import OriTerm.Mux.HostReplies
import OriTerm.Mux.HostWake
import OriTerm.Mux.CommandOrder
import OriTerm.Mux.Osc7Path
import OriTerm.Mux.PushedSnapshots
import OriTerm.Mux.Rejected
import OriTerm.Mux.SnapshotCache
import OriTerm.Mux.Transport
import OriTerm.Session.Nav
import OriTerm.Session.Partition
import OriTerm.Session.RatioUpdates
import OriTerm.Session.WindowTabs
import OriTerm.Gpu.RectPacker
import OriTerm.Gpu.WindowImages
import OriTerm.Ui.Mirror
import OriTerm.Ui.ModalIsolation
import OriTerm.Ui.TreePlan
import OriTerm.Ui.TextEditing
import OriTerm.Term.PlaceholderRuns
import OriTerm.Ui.CapturedRouting
import OriTerm.Term.Damage
import OriTerm.Core.Boundaries
