import HttpTap.Log.Record
import HttpTap.Number.Reading
import HttpTap.Number.Shortest
import HttpTap.Proofs.Entity.Consulting
import HttpTap.Scenario.Loading
import HttpTap.Scenario.Logging
import HttpTap.Scenario.Patching
import HttpTap.Scenario.Play
import HttpTap.Settings.Reading
import HttpTap.Store
import HttpTap.Stream.Source
import HttpTap.Text.Blank
import HttpTap.Text.Integer
import HttpTap.Text.Letter
import HttpTap.Text.Quoted
import HttpTap.Value.Content
import HttpTap.Proofs.Entity.Offers
import HttpTap.Proofs.Capture.Buffering
import HttpTap.Proofs.Text.Decoding
import HttpTap.Proofs.Capture.Reference
import HttpTap.Proofs.Entity.StandIn
import HttpTap.Proofs.Span.Telling
import HttpTap.Proofs.Capture.Held
import HttpTap.Proofs.Capture.Recording
import HttpTap.Proofs.Capture.RequestBody
import HttpTap.Proofs.Exchange.Lead
import HttpTap.Proofs.Exchange.Loaded
import HttpTap.Proofs.Capture.ResponseBody
import HttpTap.Proofs.Exchange.ResponseContent
import HttpTap.Proofs.World.Calm
import HttpTap.Proofs.Capture.Calm
import HttpTap.Proofs.Exchange.Settling
import HttpTap.Proofs.Exchange.Transparency
import HttpTap.Proofs.Capture.Containment
import HttpTap.Proofs.Capture.Emptied
import HttpTap.Proofs.Reading.Gathering
import HttpTap.Proofs.Capture.PartWay
import HttpTap.Proofs.Capture.FailingRequest
import HttpTap.Proofs.Exchange.FailingResponse
import HttpTap.Proofs.Capture.Swapping
import HttpTap.Proofs.Span.Reporting
import HttpTap.Proofs.Capture.Ordering
import HttpTap.Proofs.Span.Ending
import HttpTap.Proofs.Exchange.Lifetime
import HttpTap.Patching.Client
import HttpTap.Proofs.Patching.Applying
import HttpTap.Proofs.Patching.Wrapping
import HttpTap.Proofs.Patching.Owners
import HttpTap.Proofs.Capture.SecondReading
import HttpTap.Proofs.Capture.HandingOn
import HttpTap.Proofs.Exchange.Nesting
import HttpTap.Proofs.Capture.Attributes
import HttpTap.Proofs.Capture.BufferFirst
import HttpTap.Proofs.Capture.Sparing
import HttpTap.Proofs.Span.Live
import HttpTap.Proofs.Exchange.Confinement
import HttpTap.Proofs.Span.Lookup
import HttpTap.Proofs.Capture.DeclaredLength
import HttpTap.Proofs.Value.Writable
import HttpTap.Proofs.Settings.Sources
import HttpTap.Proofs.Settings.File
import HttpTap.Proofs.Settings.Precedence
import HttpTap.Proofs.Yaml.Blame
import HttpTap.Proofs.Yaml.Supply
import HttpTap.Proofs.Settings.Undisturbed
import HttpTap.Proofs.Reading.Closing
import HttpTap.Proofs.World.Closing
import HttpTap.Proofs.Entity.Opening
import HttpTap.Proofs.World.Lending
import HttpTap.Proofs.Capture.GivingBack
import HttpTap.Proofs.Patching.Pages
import HttpTap.Proofs.Patching.Moves
import HttpTap.Proofs.Patching.Marking
import HttpTap.Proofs.Patching.Account
import HttpTap.Proofs.Text.Numeral
import HttpTap.Proofs.Capture.Retry
import HttpTap.Proofs.Capture.RequestSize
import HttpTap.Proofs.Capture.Installing
import HttpTap.Proofs.Text.Cutting
import HttpTap.Proofs.Value.Comparing
import HttpTap.Proofs.Capture.CapturedText
import HttpTap.Proofs.Reading.Bounds
import HttpTap.Proofs.Entity.Readers
import HttpTap.Proofs.Capture.Lossless
import HttpTap.Proofs.Reading.Balance
import HttpTap.Proofs.Log.Calls
import HttpTap.Proofs.Capture.Copies
import HttpTap.Proofs.Capture.FailingSink
import HttpTap.Proofs.Settings.Truthful
import HttpTap.Proofs.Settings.Meaning
import HttpTap.Proofs.Entity.Lengths
import HttpTap.Proofs.Log.Bracket
