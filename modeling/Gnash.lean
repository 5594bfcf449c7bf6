import Gnash.Swf.Stream
import Gnash.Swf.PlaceObject2Tag
import Gnash.Swf.EventHandlers
import Gnash.Swf.RoundTrip
import Gnash.Swf.Loader
import Gnash.Date.Calendar
import Gnash.Date.GnashTime
import Gnash.Date.Decompose
import Gnash.Date.Compose
import Gnash.Date.Methods
import Gnash.Date.YearSearch
import Gnash.Gui.GtkAggGlue
import Gnash.Gui.MitShm
