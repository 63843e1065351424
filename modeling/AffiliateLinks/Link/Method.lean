import AffiliateLinks.Text.Numeral

/-!
# Links and how they are monetized

A tally says how many links were found, by method. Main statement: recording a link raises the count
of its method by one and no other.
-/

namespace AffiliateLinks

/-- What becomes of a link. -/
inductive Method
  | amazon | skimlinks | passthrough | skipped
  deriving DecidableEq, Repr

namespace Method

def all : List Method := [amazon, skimlinks, passthrough, skipped]

/-- The links that earn, and that a page has to mark as sponsored. -/
def isMonetized : Method → Bool
  | amazon | skimlinks => true
  | passthrough | skipped => false

theorem isMonetized_iff {m : Method} : m.isMonetized = true ↔ m = amazon ∨ m = skimlinks := by
  cases m <;> decide

theorem isMonetized_eq_false_iff {m : Method} :
    m.isMonetized = false ↔ m = passthrough ∨ m = skipped := by
  cases m <;> decide

def word : Method → Text
  | amazon => "amazon".toList
  | skimlinks => "skimlinks".toList
  | passthrough => "passthrough".toList
  | skipped => "skipped".toList

def ofWord? (w : Text) : Option Method := all.find? fun m => m.word == w

end Method

/-- The merchant is the domain that a link leads to, empty when it has no usable one. -/
structure Classification where
  method : Method
  merchant : Text
  deriving DecidableEq, Repr

def Classification.skipped : Classification := ⟨.skipped, []⟩

structure Link where
  original : Text
  monetized : Text
  method : Method
  merchant : Text
  deriving DecidableEq, Repr

structure Tally where
  amazon : Nat
  skimlinks : Nat
  passthrough : Nat
  skipped : Nat
  deriving DecidableEq, Repr

namespace Tally

def zero : Tally := ⟨0, 0, 0, 0⟩

def record (t : Tally) : Method → Tally
  | .amazon => { t with amazon := t.amazon + 1 }
  | .skimlinks => { t with skimlinks := t.skimlinks + 1 }
  | .passthrough => { t with passthrough := t.passthrough + 1 }
  | .skipped => { t with skipped := t.skipped + 1 }

def count (t : Tally) : Method → Nat
  | .amazon => t.amazon
  | .skimlinks => t.skimlinks
  | .passthrough => t.passthrough
  | .skipped => t.skipped

def total (t : Tally) : Nat := t.amazon + t.skimlinks + t.passthrough + t.skipped

def monetized (t : Tally) : Nat := t.amazon + t.skimlinks

def add (s t : Tally) : Tally :=
  ⟨s.amazon + t.amazon, s.skimlinks + t.skimlinks, s.passthrough + t.passthrough,
    s.skipped + t.skipped⟩

def ofMethods (ms : List Method) : Tally := ms.foldl record zero

def render (t : Tally) : Text :=
  "amazon=".toList ++ Numeral.decimal t.amazon ++ " skimlinks=".toList ++
    Numeral.decimal t.skimlinks ++ " passthrough=".toList ++ Numeral.decimal t.passthrough ++
    " skipped=".toList ++ Numeral.decimal t.skipped

theorem count_record (t : Tally) (m n : Method) :
    (t.record m).count n = t.count n + if n = m then 1 else 0 := by
  cases m <;> cases n <;> rfl

theorem total_record (t : Tally) (m : Method) : (t.record m).total = t.total + 1 := by
  cases m <;> simp only [record, total] <;> omega

theorem count_add (s t : Tally) (m : Method) : (s.add t).count m = s.count m + t.count m := by
  cases m <;> rfl

end Tally

end AffiliateLinks
