import BucketClient.About
import BucketClient.Client
import BucketClient.Feed.Script
import BucketClient.Json.Reader
import BucketClient.Log.Console
import BucketClient.Memory.Store
import BucketClient.S3.Scripted
import BucketClient.Settings.Environment
import BucketClient.Proofs.Exchange
import BucketClient.Proofs.Upload.Account
import BucketClient.Proofs.Part.Cut
import BucketClient.Proofs.Upload.Course
import BucketClient.Proofs.Upload.Session
import BucketClient.Proofs.Memory.Frame
import BucketClient.Proofs.Memory.RoundTrip
import BucketClient.Proofs.Feed.Run
import BucketClient.Proofs.Feed.Delivery
import BucketClient.Proofs.Feed.Closing
import BucketClient.Proofs.Feed.Drain
import BucketClient.Proofs.Listing.Course
import BucketClient.Proofs.Memory.Listed
import BucketClient.Proofs.Listing.Interleaved
import BucketClient.Proofs.Part.Yielded
import BucketClient.Proofs.Part.Turns
import BucketClient.Proofs.Part.Chunks
import BucketClient.Proofs.Upload.Unfailing
import BucketClient.Proofs.Upload.Limit
import BucketClient.Proofs.S3.Wire
import BucketClient.Proofs.S3.Sending
import BucketClient.Proofs.Client.Command
import BucketClient.Proofs.Client.Gate
import BucketClient.Proofs.Client.History
import BucketClient.Proofs.Memory.Shelf
import BucketClient.Proofs.Memory.Representation
import BucketClient.Proofs.Memory.Refinement
import BucketClient.Proofs.Listing.Undisturbed
import BucketClient.Proofs.Upload.Counted
import BucketClient.Proofs.Memory.Declared
import BucketClient.Proofs.Listing.Pace
import BucketClient.Proofs.Listing.Progress
import BucketClient.Proofs.Listing.Paging
import BucketClient.Proofs.Part.Registration
import BucketClient.Proofs.S3.Range
import BucketClient.Proofs.S3.Reading
import BucketClient.Proofs.S3.Containment
import BucketClient.Proofs.Text.Ends
import BucketClient.Proofs.Settings.Precedence
import BucketClient.Proofs.Settings.Written
import BucketClient.Proofs.Settings.Remainder
import BucketClient.Proofs.Json.RoundTrip
import BucketClient.Proofs.Log.Line
