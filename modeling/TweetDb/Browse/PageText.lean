import TweetDb.Api.TextJson
import TweetDb.Browse.HiddenMedia
import TweetDb.Submit.Ranges

/-! # From a submitted text to the page

`browse-helpers.ts` reads the JSON of the browse endpoints.  A text goes from
the submitted object through the conversion, the column, the rebuilt JSON and
the page's own reading of it to `TweetText.vue`; here the links of the page are
compared with the entities that were submitted.
-/

namespace TweetDb.Browse

open Api Intervals Json Query Submit
open TweetDb.Tweet (AnnotatedText HashtagEntity MediaEntity MentionEntity SymbolEntity UrlEntity)

/-! ## Reading a JSON value -/

section Read

-- `String(value)` of a list, a record or a number that is not whole.
variable (jsString : Value → Text)

end Read

/-! ## The record of a stored text -/

section Record

variable {formatDouble : Rat → String} {jsString : Value → Text} {fields : Fields}
  {start stop : Int}

end Record

end TweetDb.Browse
