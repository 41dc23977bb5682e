import Wayfinder.Host

namespace Wayfinder

structure Scroller where
  headerOffset : Length

namespace Scroller

/-- Where to scroll so that an anchor stands just below the header. -/
def offset (anchorTop header : Length) : Length := Length.nonneg (anchorTop - header)

section Offset

variable {anchorTop header : Length}

theorem offset_of_pos (below : 0 < anchorTop - header) :
    offset anchorTop header = anchorTop - header :=
  if_pos below

/-- A difference of zero counts as none even if it has a minus sign. -/
theorem offset_of_not_pos (above : ¬ 0 < anchorTop - header) : offset anchorTop header = 0 :=
  if_neg above

end Offset

variable {ω : Type} (s : Scroller)

def reveal (d : Document ω) (id : String) : Document ω × List Note :=
  let asked := Note.asked (.anchorTop id (d.page.anchorTop? id))
  match d.page.anchorTop? id with
  | none => (d, [asked, .debug ("scroller: no anchor for section `" ++ id ++ "`")])
  | some top =>
    let position := offset top s.headerOffset
    ((d.scrollTo position true).1, [asked, .asked (.scrollTo position true)])

end Scroller

end Wayfinder
