import RenderRelay.Backend
import RenderRelay.Backend.Headless
import RenderRelay.Backend.Traced
import RenderRelay.Bench.BareBench
import RenderRelay.Bench.BitmapBench
import RenderRelay.Bench.GpuBench
import RenderRelay.Bench.HeadlessBench
import RenderRelay.Bitmap
import RenderRelay.Capabilities
import RenderRelay.Color
import RenderRelay.Display.DisplayList
import RenderRelay.Display.Recorder
import RenderRelay.Engine.Command
import RenderRelay.Engine.Context
import RenderRelay.Engine.Proxy
import RenderRelay.Engine.Registry
import RenderRelay.Engine.RenderLoop
import RenderRelay.Fault
import RenderRelay.Geometry.Damage
import RenderRelay.Geometry.Rect
import RenderRelay.Geometry.Viewport
import RenderRelay.Gpu.Device
import RenderRelay.Gpu.InstanceArena
import RenderRelay.Gpu.RectRenderer
import RenderRelay.Gpu.Scissor
import RenderRelay.Gpu.WindowSurface
import RenderRelay.Handle
import RenderRelay.LogRecord
import RenderRelay.Logging.Filter
import RenderRelay.Logging.PlainText
import RenderRelay.Logging.Setup
import RenderRelay.Pattern.CharSet
import RenderRelay.Pattern.ClassReader
import RenderRelay.Pattern.Cursor
import RenderRelay.Pattern.Expr
import RenderRelay.Pattern.ExprReader
import RenderRelay.Pattern.Matcher
import RenderRelay.Pattern.Meaning
import RenderRelay.Pattern.Place
import RenderRelay.Pattern.ReadError
import RenderRelay.Pattern.Weight
import RenderRelay.Proofs.Accesses.Painting
import RenderRelay.Proofs.Accesses.RawBitmap
import RenderRelay.Proofs.Accesses.Runs
import RenderRelay.Proofs.Accord.Agreement
import RenderRelay.Proofs.Accord.Books
import RenderRelay.Proofs.Accord.Calls
import RenderRelay.Proofs.Accord.Kept
import RenderRelay.Proofs.Blending
import RenderRelay.Proofs.Budget
import RenderRelay.Proofs.Callings.Buffers
import RenderRelay.Proofs.Callings.Engine
import RenderRelay.Proofs.Callings.Pixels
import RenderRelay.Proofs.Callings.Plans
import RenderRelay.Proofs.Callings.Thread
import RenderRelay.Proofs.Callings.Truth
import RenderRelay.Proofs.Categories
import RenderRelay.Proofs.Chronicle.Inventory
import RenderRelay.Proofs.Chronicle.Recorded
import RenderRelay.Proofs.Correspondence.Basic
import RenderRelay.Proofs.Correspondence.Engine
import RenderRelay.Proofs.Correspondence.Fellows
import RenderRelay.Proofs.Correspondence.Headless
import RenderRelay.Proofs.Correspondence.Invariant
import RenderRelay.Proofs.Correspondence.Renaming
import RenderRelay.Proofs.Correspondence.Thread
import RenderRelay.Proofs.Custody.Accounts
import RenderRelay.Proofs.Custody.Census
import RenderRelay.Proofs.Custody.Erasure
import RenderRelay.Proofs.Custody.Holding
import RenderRelay.Proofs.Custody.Ledger
import RenderRelay.Proofs.Custody.Release
import RenderRelay.Proofs.DeviceOp
import RenderRelay.Proofs.Evolution
import RenderRelay.Proofs.Exchange.Invariant
import RenderRelay.Proofs.Exchange.Lifetime
import RenderRelay.Proofs.Exchange.Protocol
import RenderRelay.Proofs.Exchange.Replies
import RenderRelay.Proofs.Exchange.Serving
import RenderRelay.Proofs.Exchange.System
import RenderRelay.Proofs.Explicit
import RenderRelay.Proofs.Faultless
import RenderRelay.Proofs.Features.Gate
import RenderRelay.Proofs.Features.Passing
import RenderRelay.Proofs.Features.Whole
import RenderRelay.Proofs.Features.Within
import RenderRelay.Proofs.Gpu.Batching
import RenderRelay.Proofs.Gpu.Instances
import RenderRelay.Proofs.Gpu.Requests
import RenderRelay.Proofs.Gpu.Resources
import RenderRelay.Proofs.Gpu.Scissors
import RenderRelay.Proofs.Gpu.Windows
import RenderRelay.Proofs.Inert
import RenderRelay.Proofs.Isolation.Alone
import RenderRelay.Proofs.Isolation.Apart
import RenderRelay.Proofs.Isolation.Names
import RenderRelay.Proofs.Layers.Compositing
import RenderRelay.Proofs.Layers.Dealings
import RenderRelay.Proofs.Layers.Deferral
import RenderRelay.Proofs.Layers.Keeping
import RenderRelay.Proofs.Layers.Placement
import RenderRelay.Proofs.Layers.ReadBack
import RenderRelay.Proofs.Layers.Redraw
import RenderRelay.Proofs.Layers.Shelf
import RenderRelay.Proofs.Logging.Filtering
import RenderRelay.Proofs.Logging.Matching
import RenderRelay.Proofs.Premultiplied
import RenderRelay.Proofs.Preorder
import RenderRelay.Proofs.Quoting
import RenderRelay.Proofs.Recording.Nesting
import RenderRelay.Proofs.Recording.Shrinking
import RenderRelay.Proofs.Recovery.Calling
import RenderRelay.Proofs.Recovery.Desk
import RenderRelay.Proofs.Recovery.Loose
import RenderRelay.Proofs.Recovery.Paired
import RenderRelay.Proofs.Recovery.Recovered
import RenderRelay.Proofs.Recovery.Refit
import RenderRelay.Proofs.Recovery.Refused
import RenderRelay.Proofs.Recovery.Twins
import RenderRelay.Proofs.Recovery.Unread
import RenderRelay.Proofs.Refusal
import RenderRelay.Proofs.Regions
import RenderRelay.Proofs.Repaint.Faithful
import RenderRelay.Proofs.Repaint.Frames
import RenderRelay.Proofs.Repaint.History
import RenderRelay.Proofs.Repaint.Outcome
import RenderRelay.Proofs.Repaint.Presenting
import RenderRelay.Proofs.Repaint.Scoped
import RenderRelay.Proofs.Repaint.Shade
import RenderRelay.Proofs.Rounding
import RenderRelay.Proofs.Tables
import RenderRelay.Proofs.Tiling
import RenderRelay.Proofs.Traffic.Engine
import RenderRelay.Proofs.Traffic.Protocol
import RenderRelay.Proofs.Traffic.Record
import RenderRelay.Proofs.Traffic.Redraw
import RenderRelay.Proofs.Traffic.Script
import RenderRelay.Proofs.Traffic.Thread
import RenderRelay.Proofs.Turns
import RenderRelay.RenderError
import RenderRelay.Session.Calls
import RenderRelay.Session.Rig
import RenderRelay.Session.Run
import RenderRelay.Session.Step
import RenderRelay.Session.World
import RenderRelay.Single
import RenderRelay.Surface
import RenderRelay.Sweep
import RenderRelay.Table
import RenderRelay.Text.Lines
import RenderRelay.Text.Quoted
import RenderRelay.Unicode.GeneralCategory
import RenderRelay.Unicode.Property
import RenderRelay.Unicode.Runs
