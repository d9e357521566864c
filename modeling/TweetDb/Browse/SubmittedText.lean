import TweetDb.Browse.PageText

/-! # A submitted text on the page

The text that was submitted is converted, stored, rebuilt as JSON and read by
the page.  What comes out are the entities that were submitted, so a link of
the text is a link of the page unless an earlier entity covers it.
-/

namespace TweetDb.Browse

open Api Intervals Json Query Submit
open TweetDb.Tweet (AnnotatedText)

/-! ## The entities of a submitted text -/

section Converted

variable {store : LookupStore} {lookupIds : Option SubmitLookupIds} {value : SubmitAnnotatedText}
  {text : AnnotatedText} {cache : CacheState} {stored : DbAnnotatedText}

end Converted

/-! ## Links that are shown -/

section Links

variable {props : Props} {entity : TextEntity}

end Links

/-! ## From the column to the page -/

section Page

variable {formatDouble : Rat → String} {formatTime : Timestamp → String}
  {jsString : Value → Text} {store : LookupStore} {lookupIds : Option SubmitLookupIds}
  {value : SubmitAnnotatedText} {text : AnnotatedText} {cache : CacheState}
  {stored : DbAnnotatedText} {row : TweetColumns} {detail : Bool}

end Page

end TweetDb.Browse
