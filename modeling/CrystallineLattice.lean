import CrystallineLattice.Compositor.Refinement
import CrystallineLattice.Compositor.Overlay
import CrystallineLattice.Native.Descriptors
import CrystallineLattice.Native.Accounting
import CrystallineLattice.Native.Reconnect
import CrystallineLattice.Native.DrawSafety
import CrystallineLattice.Native.Handshake
import CrystallineLattice.Native.Watch
import CrystallineLattice.Native.Repaint
import CrystallineLattice.Native.Commute
import CrystallineLattice.Native.Placement
import CrystallineLattice.Native.Cursor
import CrystallineLattice.Native.Refusals
import CrystallineLattice.Native.Parsing
import CrystallineLattice.Native.Receiving
import CrystallineLattice.Wayland.Buffers
import CrystallineLattice.Wayland.Lifetimes
import CrystallineLattice.Wayland.Agreement
import CrystallineLattice.Wayland.Callbacks
import CrystallineLattice.Wayland.Copying
import CrystallineLattice.Wayland.Generations
import CrystallineLattice.Wayland.Repaint
import CrystallineLattice.Control.Interleavings
import CrystallineLattice.Control.Leftovers
import CrystallineLattice.Control.Modes
import CrystallineLattice.Server.Wallpaper
import CrystallineLattice.Server.Routing
import CrystallineLattice.Server.Grace
import CrystallineLattice.Server.Pointing
import CrystallineLattice.Server.Resizing
import CrystallineLattice.Server.Geometry
import CrystallineLattice.Server.Screen
import CrystallineLattice.Server.Flips
import CrystallineLattice.Wayland.Entering
import CrystallineLattice.Stack.Handles
import CrystallineLattice.Stack.HitTest
import CrystallineLattice.Stack.Cycling
import CrystallineLattice.Manager.Dragging
import CrystallineLattice.Manager.Drift
import CrystallineLattice.Manager.Snapping
import CrystallineLattice.Manager.WorkArea
import CrystallineLattice.Server.Lifecycle
import CrystallineLattice.Server.Conversations
import CrystallineLattice.Native.Shutdown
import CrystallineLattice.Native.Panes
import CrystallineLattice.Server.Housekeeping
import CrystallineLattice.Wayland.Panes
import CrystallineLattice.Server.Drawing
import CrystallineLattice.Native.Bystander
import CrystallineLattice.Server.Bystander
import CrystallineLattice.Client.Model
import CrystallineLattice.Client.Requests
import CrystallineLattice.Client.Visit
import CrystallineLattice.Platform.Probe
