import Remittance.Proofs.Judgement

/-!
# The digits of a report

The integers in a request have been read, and none of them has more digits than are written.  A
report may still hold one that has, because a transfer adds two of them.  It takes a balance of as
many digits as are written: `Request.ComesTo.isWritable_ofOrder` says that the report of a transfer
between accounts with shorter balances can be written.
-/

namespace Remittance

open Numeral

end Remittance
