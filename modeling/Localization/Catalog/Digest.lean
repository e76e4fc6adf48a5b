import Localization.Catalog.Basic
import Localization.Digest.Md5
import Localization.Json.Printer

/-!
# Digests of texts and catalogs

The digest of a text tells whether it changed since it was last translated. The digest of a catalog
is that of its canonical form, so it does not depend on the order of names at any depth.
-/

namespace Localization

/-- The digest of a text; a text without a UTF-8 form has none. -/
def Text.digest (t : Text) : Except Utf8.EncodeFault Text :=
  (Utf8.encode t).map Digest.Md5.hexDigest

namespace Catalog

/-- A document with the names of every object in increasing order, without blanks. -/
def canonical (j : Json) : Text := j.render .canonical

/-- The digest of a document. -/
def digest (j : Json) : Except Utf8.EncodeFault Text := (canonical j).digest

end Catalog

end Localization
