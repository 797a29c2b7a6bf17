import QuadMosaic.Text.Blank
import QuadMosaic.Text.Quoted
import QuadMosaic.Text.Path
import QuadMosaic.Decimal.Layout
import QuadMosaic.Decimal.Reading
import QuadMosaic.Json.Reader
import QuadMosaic.Json.Printer
import QuadMosaic.Json.Display
import QuadMosaic.Schema.MosaicReport
import QuadMosaic.Scalar
import QuadMosaic.Grid.PixelBox
import QuadMosaic.Grid.LonLatBox
import QuadMosaic.Grid.Resolution
import QuadMosaic.Grid.Affine
import QuadMosaic.Raster.Channel
import QuadMosaic.Crs.Transform
import QuadMosaic.Raster.Basic
import QuadMosaic.Georeference.Transfer
import QuadMosaic.Georeference.Resolve
import QuadMosaic.Pixel.Adjust
import QuadMosaic.Canvas.Read
import QuadMosaic.Pyramid.Estimate
import QuadMosaic.Pyramid.OutputGrid
import QuadMosaic.Pyramid.Bounds
import QuadMosaic.Tiles.Tree
import QuadMosaic.Session.Basic
import QuadMosaic.Tiles.Sidecar
import QuadMosaic.Compose.Mosaic
import QuadMosaic.Compose.Observe
import QuadMosaic.Compose.Warp
import QuadMosaic.Options.File
import QuadMosaic.Options.ToJson
import QuadMosaic.Options.Merge
import QuadMosaic.Log.Format
import QuadMosaic.Run.Engine
import QuadMosaic.Run.Report
import QuadMosaic.CommandLine.Program
import QuadMosaic.Described.Image
import QuadMosaic.Described.Job
import QuadMosaic.Main
import QuadMosaic.Proofs.Steps
import QuadMosaic.Proofs.Boxes
import QuadMosaic.Proofs.BoxLattice
import QuadMosaic.Proofs.Double
import QuadMosaic.Proofs.Region
import QuadMosaic.Proofs.Canvas
import QuadMosaic.Proofs.Reading
import QuadMosaic.Proofs.Draft
import QuadMosaic.Proofs.Tiles
import QuadMosaic.Proofs.QuadTree
import QuadMosaic.Proofs.TileNames
import QuadMosaic.Proofs.Coverage
import QuadMosaic.Proofs.Signs
import QuadMosaic.Proofs.Opacity
import QuadMosaic.Proofs.Actions
import QuadMosaic.Proofs.Antimeridian
import QuadMosaic.Proofs.Exact
import QuadMosaic.Proofs.Normalise
import QuadMosaic.Proofs.Members
import QuadMosaic.Proofs.Numbers
import QuadMosaic.Proofs.Paths
import QuadMosaic.Proofs.ReadBack
import QuadMosaic.Proofs.Acceptance
import QuadMosaic.Proofs.Replacement
import QuadMosaic.Proofs.RoundTrip
import QuadMosaic.Proofs.Calls
import QuadMosaic.Proofs.Checks
import QuadMosaic.Proofs.Columns
import QuadMosaic.Proofs.Globe
import QuadMosaic.Proofs.Files
import QuadMosaic.Proofs.Refusals
import QuadMosaic.Proofs.Registry
import QuadMosaic.Proofs.Runs
import QuadMosaic.Proofs.Output
import QuadMosaic.Proofs.Sidecars
import QuadMosaic.Proofs.Lookup
import QuadMosaic.Proofs.Reports
import QuadMosaic.Proofs.Bookkeeping
import QuadMosaic.Proofs.Overlay
import QuadMosaic.Proofs.Layers
import QuadMosaic.Proofs.Precedence
import QuadMosaic.Proofs.Square
import QuadMosaic.Proofs.Blending
import QuadMosaic.Proofs.RightEdge
import QuadMosaic.Proofs.Detail
import QuadMosaic.Proofs.AffineBox
import QuadMosaic.Proofs.Comparison
import QuadMosaic.Proofs.Masking
import QuadMosaic.Proofs.RangeOrder
import QuadMosaic.Proofs.Inverses
import QuadMosaic.Proofs.RegionCorners
import QuadMosaic.Proofs.Overrides
