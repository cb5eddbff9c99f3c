import Puppy.Transition.Loop
import Puppy.Usb.Command
import Puppy.Usb.Codec
import Puppy.Transfer.PutComplete
import Puppy.Transfer.GetAbort
import Puppy.Transfer.GetTime
import Puppy.Transfer.RoundTrip
import Puppy.Listing.Agreement
import Puppy.Listing.Replies
import Puppy.Listing.Document
import Puppy.Control.SingleReply
import Puppy.Lock.Exclusion
import Puppy.Lock.Sessions
import Puppy.Lock.Reports
import Puppy.Cli.FetchPath
import Puppy.Cli.NameOrder
import Puppy.Cli.FieldOrder
import Puppy.Usb.Damage
import Puppy.Usb.PathRequest
import Puppy.Transfer.GetSize
import Puppy.Listing.Decoding
import Puppy.Time.RoundTrip
import Puppy.Usb.Ioctl
import Puppy.Listing.Quote
import Puppy.Cli.NameParts
import Puppy.Usb.Padding
import Puppy.Text.Stdio
import Puppy.Cli.Autodetect
import Puppy.Peer.Session
import Puppy.Peer.LockStep
import Puppy.Listing.Reading
import Puppy.Peer.Fetching
import Puppy.Peer.Browsing
import Puppy.Peer.Failed
import Puppy.Peer.Tool
