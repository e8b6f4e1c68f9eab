import GameAtlas.Text.CaseMapping
import GameAtlas.Text.Identifier
import GameAtlas.Text.Quoted
import GameAtlas.Text.Utf8
import GameAtlas.Decimal.Layout
import GameAtlas.Decimal.Reading
import GameAtlas.Expression.Evaluation
import GameAtlas.Yaml.Resolution
import GameAtlas.Yaml.Scalar
import GameAtlas.Yaml.Compose
import GameAtlas.Yaml.Content
import GameAtlas.Schema.Document
import GameAtlas.Image.Decode
import GameAtlas.Image.Patch
import GameAtlas.Projection.Rendering
import GameAtlas.Schema.Description
import GameAtlas.Schema.Address
import GameAtlas.Main
import GameAtlas.Proofs.Image.RoundTrip
import GameAtlas.Proofs.Image.Locality
import GameAtlas.Proofs.Script.Segments
import GameAtlas.Proofs.Schema.Reload
import GameAtlas.Proofs.Image.InPlace
import GameAtlas.Proofs.Image.Patched
import GameAtlas.Proofs.Yaml.Contained
import GameAtlas.Proofs.Schema.Obstacles
import GameAtlas.Proofs.Schema.Described
import GameAtlas.Proofs.Schema.Findings
import GameAtlas.Proofs.Schema.Rules
import GameAtlas.Proofs.Schema.Upsets
import GameAtlas.Proofs.Schema.Entries
import GameAtlas.Proofs.Image.Route
import GameAtlas.Proofs.Image.Reported
import GameAtlas.Proofs.Schema.WellFormed
import GameAtlas.Proofs.Schema.Disjoint
import GameAtlas.Proofs.Expression.Arguments
import GameAtlas.Proofs.Image.StaticSize
import GameAtlas.Proofs.Image.Indexed
import GameAtlas.Proofs.Schema.Wording
import GameAtlas.Proofs.Schema.Subsiding
import GameAtlas.Proofs.Schema.Cleaned
import GameAtlas.Proofs.Schema.Migrated
import GameAtlas.Proofs.Script.Obstacles
import GameAtlas.Proofs.Schema.Failures
import GameAtlas.Proofs.Expression.Names
import GameAtlas.Proofs.Script.Truncated
import GameAtlas.Proofs.Expression.Arithmetic
import GameAtlas.Proofs.Expression.Spelling
import GameAtlas.Proofs.Expression.Reading
import GameAtlas.Proofs.Expression.Meaning
import GameAtlas.Proofs.Image.Refused
import GameAtlas.Proofs.Projection.TextForm
import GameAtlas.Proofs.Schema.Unguarded
import GameAtlas.Proofs.Expression.Capture
import GameAtlas.Proofs.Expression.Growth
import GameAtlas.Proofs.Schema.Absorbed
import GameAtlas.Proofs.Schema.Rejected
import GameAtlas.Proofs.Schema.Reordered
import GameAtlas.Proofs.Text.Portion
import GameAtlas.Proofs.Yaml.Spoilers
import GameAtlas.Proofs.Command.ExitCode
import GameAtlas.Proofs.Image.Place
import GameAtlas.Proofs.Schema.Spellings
import GameAtlas.Proofs.Script.Greedy
import GameAtlas.Proofs.Script.Shuffled
import GameAtlas.Proofs.Image.Chunks
import GameAtlas.Proofs.Image.Spliced
import GameAtlas.Proofs.Projection.ByteOrder
import GameAtlas.Proofs.Projection.BitNames
import GameAtlas.Proofs.Projection.Pixels
import GameAtlas.Proofs.Projection.Recolored
import GameAtlas.Proofs.Image.Shortage
import GameAtlas.Proofs.Image.Terminated
import GameAtlas.Proofs.Expression.Caps
import GameAtlas.Proofs.Expression.Rounding
import GameAtlas.Proofs.Projection.NumberText
import GameAtlas.Proofs.Image.Metered
