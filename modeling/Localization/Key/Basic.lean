import Localization.Digest.Sha1
import Localization.Path
import Localization.Text.Ascii
import Localization.Text.Blank
import Localization.Text.Case
import Localization.Text.Utf8

/-!
# Keys

A text is looked up by a key made of the project's lead, the stem of the file it stands in, and a
slug: the words of the text in lower case, reduced to ASCII letters and digits and joined by
underscores. A text with nothing of that kind in it gets the first digits of its digest instead.
-/

namespace Localization.Key

/-- Whether a slug keeps a code point of the lower-case text. -/
def isKept (c : CodePoint) : Bool := c.isAsciiLower || c.isAsciiDigit || c.isBlank

/-- The slug of a text. -/
def slug (t : Text) : Text :=
  Text.join "_" (Text.words (t.lower.filter isKept))

/-- The hexadecimal digest of a text; a text without a UTF-8 form has none. -/
def digest (t : Text) : Except Utf8.EncodeFault Text := (Utf8.encode t).map Digest.Sha1.hexDigest

/-- The first `length` digits of the digest; a negative length counts from the end. -/
def mark (t : Text) (length : Int) : Except Utf8.EncodeFault Text := do
  let digits ← digest t
  return match length with
    | .ofNat n => digits.take n
    | .negSucc n => digits.take (digits.length - (n + 1))

/-- The six digits that keep two texts apart. -/
def shortMark (t : Text) : Except Utf8.EncodeFault Text := mark t 6

/-- The key of a text in a file. -/
def generate (t file lead : Text) : Except Utf8.EncodeFault Text := do
  let s := slug t
  let name ← if s.isEmpty then shortMark t else pure s
  let head : Text := if lead.isEmpty then [] else lead ++ "_"
  return head ++ (Path.ofText file).stem ++ "_" ++ name

end Localization.Key
