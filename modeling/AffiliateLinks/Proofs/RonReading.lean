import AffiliateLinks.Proofs.RonTokens
import AffiliateLinks.Ron.Value
import AffiliateLinks.Tree

/-!
# RON that is written is read back

Main statement: the text of a tree stands for the value that the tree is read as, if the names of its
fields are plain words and it is not too high.
-/

namespace AffiliateLinks

namespace Tree

mutual

/-- The names of all fields are plain words. -/
def isPlain : Tree → Bool
  | .counter _ => true
  | .text _ => true
  | .list ts => arePlain ts
  | .record fs => fieldsPlain fs

def arePlain : List Tree → Bool
  | [] => true
  | t :: ts => isPlain t && arePlain ts

def fieldsPlain : List (Text × Tree) → Bool
  | [] => true
  | (k, t) :: fs => Ron.Token.isPlainWord k && isPlain t && fieldsPlain fs

end

mutual

/-- How much of the limit of depth a tree takes. -/
def height : Tree → Nat
  | .counter _ => 0
  | .text _ => 0
  | .list ts => heightItems ts + 1
  | .record fs => heightFields fs + 2

def heightItems : List Tree → Nat
  | [] => 0
  | t :: ts => max (height t) (heightItems ts)

def heightFields : List (Text × Tree) → Nat
  | [] => 0
  | (_, t) :: fs => max (height t) (heightFields fs)

end

end Tree

namespace Ron

open Token (LexesTo)

mutual

def tokens : Tree → List Token
  | .counter n => [.number (Numeral.decimal n)]
  | .text t => [.string t]
  | .list ts => .punct '[' :: (itemTokens ts ++ [.punct ']'])
  | .record fs => .punct '(' :: (fieldTokens fs ++ [.punct ')'])

def itemTokens : List Tree → List Token
  | [] => []
  | t :: ts => tokens t ++ [.punct ','] ++ itemTokens ts

def fieldTokens : List (Text × Tree) → List Token
  | [] => []
  | (k, t) :: fs => [.word k, .punct ':'] ++ (tokens t ++ [.punct ',']) ++ fieldTokens fs

end

lemma lexesTo_group {lines : Text} {us : List Token} {opening closing : Char} (depth : Nat)
    (hopening : Token.isPunct opening = true) (hclosing : Token.isPunct closing = true)
    (h : LexesTo lines us) :
    LexesTo (group depth opening closing lines) (.punct opening :: (us ++ [.punct closing])) := by
  unfold group
  cases hlines : lines.isEmpty with
  | true =>
    rw [List.isEmpty_iff.1 hlines] at h
    have := (LexesTo.punct hopening).append (h.append (LexesTo.punct hclosing))
    exact this
  | false =>
    have hinner := (LexesTo.space (c := '\n') rfl).append
      (h.append ((LexesTo.indent (4 * depth)).append (LexesTo.punct hclosing)))
    have := (LexesTo.punct hopening).append hinner
    rw [if_neg Bool.false_ne_true, List.append_assoc, List.cons_append]
    exact this

mutual

theorem lexesTo_write (depth : Nat) : ∀ t : Tree, t.isPlain = true →
    LexesTo (write depth t ++ [',']) (tokens t ++ [.punct ','])
  | .counter n, _ => by
    rw [write]
    exact LexesTo.number n
  | .text t, _ => by
    rw [write]
    exact (LexesTo.string t).append (LexesTo.punct rfl)
  | .list ts, h => by
    rw [write, tokens]
    rw [Tree.isPlain] at h
    exact (lexesTo_group depth rfl rfl (lexesTo_writeItems (depth + 1) ts h)).append
      (LexesTo.punct rfl)
  | .record fs, h => by
    rw [write, tokens]
    rw [Tree.isPlain] at h
    exact (lexesTo_group depth rfl rfl (lexesTo_writeFields (depth + 1) fs h)).append
      (LexesTo.punct rfl)

theorem lexesTo_writeItems (depth : Nat) : ∀ ts : List Tree, Tree.arePlain ts = true →
    LexesTo (writeItems depth ts) (itemTokens ts)
  | [], _ => by
    rw [writeItems, itemTokens]
    exact LexesTo.nil
  | t :: ts, h => by
    rw [Tree.arePlain, Bool.and_eq_true] at h
    have hitem := (lexesTo_write depth t h.1).append
      ((LexesTo.space (c := '\n') rfl).append (lexesTo_writeItems depth ts h.2))
    have := (LexesTo.indent (4 * depth)).append hitem
    simpa only [writeItems, itemTokens, indent, List.append_assoc, List.nil_append, List.cons_append]
      using this

theorem lexesTo_writeFields (depth : Nat) : ∀ fs : List (Text × Tree), Tree.fieldsPlain fs = true →
    LexesTo (writeFields depth fs) (fieldTokens fs)
  | [], _ => by
    rw [writeFields, fieldTokens]
    exact LexesTo.nil
  | (k, t) :: fs, h => by
    rw [Tree.fieldsPlain, Bool.and_eq_true, Bool.and_eq_true] at h
    have hvalue := (lexesTo_write depth t h.1.2).append
      ((LexesTo.space (c := '\n') rfl).append (lexesTo_writeFields depth fs h.2))
    have := (LexesTo.indent (4 * depth)).append
      ((LexesTo.word h.1.1).append ((LexesTo.space (c := ' ') rfl).append hvalue))
    simpa only [writeFields, fieldTokens, indent, List.append_assoc, List.nil_append,
      List.cons_append] using this

end

namespace Value

mutual

/-- What a tree is read as. A record without fields looks like an empty tuple. -/
def ofTree : Tree → Value
  | .counter n => .number (Numeral.decimal n)
  | .text t => .string t
  | .list ts => .list (ofTrees ts)
  | .record [] => .tuple none []
  | .record (f :: fs) => .record none (ofFields (f :: fs))

def ofTrees : List Tree → List Value
  | [] => []
  | t :: ts => ofTree t :: ofTrees ts

def ofFields : List (Text × Tree) → List (Text × Value)
  | [] => []
  | (k, t) :: fs => (k, ofTree t) :: ofFields fs

end

section Steps

variable (fuel depth : Nat) (close : Char) (ts : List Token)

lemma read?_number (n : Text) : read? (fuel + 1) depth (.number n :: ts) = some (.number n, ts) := by
  rw [read?]

lemma read?_string (t : Text) : read? (fuel + 1) depth (.string t :: ts) = some (.string t, ts) := by
  rw [read?]

lemma read?_list : read? (fuel + 1) (depth + 1) (.punct '[' :: ts) =
    (readItems? fuel depth ']' ts).bind fun p => some (.list p.1, p.2) := by
  rw [read?]
  rfl

lemma read?_group : read? (fuel + 1) depth (.punct '(' :: ts) = readGroup? fuel depth none ts := by
  rw [read?]

lemma readGroup?_fields (k : Text) :
    readGroup? (fuel + 1) (depth + 1) none (.word k :: .punct ':' :: ts) =
    (readFields? fuel depth (.word k :: .punct ':' :: ts)).bind fun p =>
      some (.record none p.1, p.2) := by
  rw [readGroup?]
  rfl

lemma readGroup?_empty : readGroup? (fuel + 2) (depth + 1) none (.punct ')' :: ts) =
    some (.tuple none [], ts) := by
  rw [readGroup?]
  · change (readItems? (fuel + 1) depth ')' (.punct ')' :: ts)).bind _ = _
    rw [readItems?, if_pos rfl]
    rfl
  · intro _ _ h
    cases h
  · intro _ _ h
    cases h

lemma readItems?_close : readItems? (fuel + 1) depth close (.punct close :: ts) = some ([], ts) := by
  rw [readItems?, if_pos rfl]

lemma readFields?_close : readFields? (fuel + 1) depth (.punct ')' :: ts) = some ([], ts) := by
  rw [readFields?]

lemma readFields?_field (k : Text) : readFields? (fuel + 1) (depth + 1) (.word k :: .punct ':' :: ts) =
    (read? fuel (depth + 1) ts).bind fun p => match p.2 with
      | .punct ',' :: ts => (readFields? fuel (depth + 1) ts).bind fun q => some ((k, p.1) :: q.1, q.2)
      | .punct ')' :: ts => some ([(k, p.1)], ts)
      | _ => none := by
  rw [readFields?]
  rfl

lemma readItem?_comma {us : List Token} {v : Value}
    (h : read? fuel depth us = some (v, .punct ',' :: ts)) :
    readItem? (fuel + 1) depth close us =
      (readItems? fuel depth close ts).bind fun p => some (v :: p.1, p.2) := by
  rw [readItem?, h]
  rfl

/-- A tree begins with a token that closes no list. -/
lemma readItems?_tokens (t : Tree) : readItems? (fuel + 1) depth ']' (tokens t ++ ts) =
    readItem? fuel depth ']' (tokens t ++ ts) := by
  cases t with
  | counter n =>
    rw [tokens, List.cons_append, readItems?]
    intro _ _ h
    cases h
  | text t =>
    rw [tokens, List.cons_append, readItems?]
    intro _ _ h
    cases h
  | list us => rw [tokens, List.cons_append, readItems?, if_neg (by decide)]
  | record fs => rw [tokens, List.cons_append, readItems?, if_neg (by decide)]

end Steps

mutual

theorem read?_tokens : ∀ (t : Tree) (fuel depth : Nat) (ts : List Token),
    3 * (tokens t).length ≤ fuel → t.height ≤ depth →
      read? fuel depth (tokens t ++ ts) = some (ofTree t, ts)
  | .counter n, fuel, depth, ts, hfuel, _ => by
    rw [tokens, List.length_singleton] at hfuel
    obtain ⟨fuel, rfl⟩ : ∃ f, fuel = f + 1 := ⟨fuel - 1, by omega⟩
    rw [tokens, ofTree]
    exact read?_number fuel depth ts _
  | .text t, fuel, depth, ts, hfuel, _ => by
    rw [tokens, List.length_singleton] at hfuel
    obtain ⟨fuel, rfl⟩ : ∃ f, fuel = f + 1 := ⟨fuel - 1, by omega⟩
    rw [tokens, ofTree]
    exact read?_string fuel depth ts t
  | .list us, fuel, depth, ts, hfuel, hdepth => by
    rw [tokens, List.length_cons, List.length_append, List.length_singleton] at hfuel
    rw [Tree.height] at hdepth
    obtain ⟨fuel, rfl⟩ : ∃ f, fuel = f + 1 := ⟨fuel - 1, by omega⟩
    obtain ⟨depth, rfl⟩ : ∃ d, depth = d + 1 := ⟨depth - 1, by omega⟩
    have hitems := readItems?_itemTokens us fuel depth ts (by omega) (by omega)
    rw [tokens, ofTree, List.cons_append, List.append_assoc, read?_list]
    exact congrArg (Option.bind · _) hitems
  | .record [], fuel, depth, ts, hfuel, hdepth => by
    rw [tokens, fieldTokens, List.nil_append, List.length_cons, List.length_singleton] at hfuel
    rw [Tree.height] at hdepth
    obtain ⟨fuel, rfl⟩ : ∃ f, fuel = f + 3 := ⟨fuel - 3, by omega⟩
    obtain ⟨depth, rfl⟩ : ∃ d, depth = d + 1 := ⟨depth - 1, by omega⟩
    rw [tokens, fieldTokens, ofTree, List.nil_append, List.cons_append, read?_group]
    exact readGroup?_empty fuel depth ts
  | .record ((k, t) :: fs), fuel, depth, ts, hfuel, hdepth => by
    rw [tokens, List.length_cons, List.length_append, List.length_singleton] at hfuel
    rw [Tree.height] at hdepth
    obtain ⟨fuel, rfl⟩ : ∃ f, fuel = f + 2 := ⟨fuel - 2, by omega⟩
    obtain ⟨depth, rfl⟩ : ∃ d, depth = d + 1 := ⟨depth - 1, by omega⟩
    have hfields := readFields?_fieldTokens ((k, t) :: fs) fuel depth ts (by omega) (by omega)
    rw [tokens, ofTree, List.cons_append, List.append_assoc, read?_group]
    rw [fieldTokens, List.append_assoc, List.append_assoc] at hfields ⊢
    exact (readGroup?_fields fuel depth _ k).trans (congrArg (Option.bind · _) hfields)

theorem readItems?_itemTokens : ∀ (us : List Tree) (fuel depth : Nat) (ts : List Token),
    3 * (itemTokens us).length + 1 ≤ fuel → Tree.heightItems us ≤ depth →
      readItems? fuel depth ']' (itemTokens us ++ .punct ']' :: ts) = some (ofTrees us, ts)
  | [], fuel, depth, ts, hfuel, _ => by
    obtain ⟨fuel, rfl⟩ : ∃ f, fuel = f + 1 := ⟨fuel - 1, by omega⟩
    rw [itemTokens, ofTrees]
    exact readItems?_close fuel depth ']' ts
  | t :: us, fuel, depth, ts, hfuel, hdepth => by
    rw [itemTokens, List.length_append, List.length_append, List.length_singleton] at hfuel
    rw [Tree.heightItems] at hdepth
    obtain ⟨fuel, rfl⟩ : ∃ f, fuel = f + 2 := ⟨fuel - 2, by omega⟩
    have htree := read?_tokens t fuel depth (.punct ',' :: (itemTokens us ++ .punct ']' :: ts))
      (by omega) (by omega)
    have hitems := readItems?_itemTokens us fuel depth ts (by omega) (by omega)
    rw [itemTokens, ofTrees, List.append_assoc, List.append_assoc, readItems?_tokens]
    exact (readItem?_comma fuel depth ']' _ htree).trans (congrArg (Option.bind · _) hitems)

theorem readFields?_fieldTokens : ∀ (fs : List (Text × Tree)) (fuel depth : Nat) (ts : List Token),
    3 * (fieldTokens fs).length + 1 ≤ fuel → Tree.heightFields fs < depth →
      readFields? fuel depth (fieldTokens fs ++ .punct ')' :: ts) = some (ofFields fs, ts)
  | [], fuel, depth, ts, hfuel, _ => by
    obtain ⟨fuel, rfl⟩ : ∃ f, fuel = f + 1 := ⟨fuel - 1, by omega⟩
    rw [fieldTokens, ofFields]
    exact readFields?_close fuel depth ts
  | (k, t) :: fs, fuel, depth, ts, hfuel, hdepth => by
    rw [fieldTokens, List.length_append, List.length_append, List.length_append,
      List.length_singleton, List.length_cons, List.length_singleton] at hfuel
    rw [Tree.heightFields] at hdepth
    obtain ⟨fuel, rfl⟩ : ∃ f, fuel = f + 1 := ⟨fuel - 1, by omega⟩
    obtain ⟨depth, rfl⟩ : ∃ d, depth = d + 1 := ⟨depth - 1, by omega⟩
    have htree := read?_tokens t fuel (depth + 1)
      (.punct ',' :: (fieldTokens fs ++ .punct ')' :: ts)) (by omega) (by omega)
    have hfields := readFields?_fieldTokens fs fuel (depth + 1) ts (by omega) (by omega)
    rw [fieldTokens, ofFields, List.append_assoc, List.append_assoc, List.append_assoc,
      List.cons_append, List.singleton_append, readFields?_field, List.singleton_append, htree]
    exact congrArg (Option.bind · _) hfields

end

/-- The text of a record is read as the record's value, without any extension. -/
theorem ofText?_render {fs : List (Text × Tree)} (hplain : Tree.fieldsPlain fs = true)
    (hheight : (Tree.record fs).height ≤ depthLimit) :
    ofText? (render (.record fs)) = some (.none, ofTree (.record fs)) := by
  have htokens : Token.ofText? (render (.record fs)) = some (tokens (.record fs)) := by
    have hgroup := @lexesTo_group _ _ '(' ')' 0 rfl rfl (lexesTo_writeFields 1 fs hplain)
    have := hgroup.lexes _ (Nat.le_refl _)
    rw [tokens, render, write, Token.ofText?]
    exact this
  have hextensions : Extensions.read .none (tokens (.record fs)) =
      some (.none, tokens (.record fs)) := by
    rw [tokens, Extensions.read]
    · intro _ _ h
      cases h
    · intro _ h
      cases h
  have hvalue := read?_tokens (.record fs) (3 * (tokens (.record fs)).length + 1) depthLimit []
    (by omega) hheight
  rw [List.append_nil] at hvalue
  unfold ofText?
  rw [htokens]
  change (Extensions.read .none (tokens (.record fs))).bind _ = _
  rw [hextensions]
  change (read? (3 * (tokens (.record fs)).length + 1) depthLimit (tokens (.record fs))).bind _ = _
  rw [hvalue]
  rfl

end Value

end Ron

end AffiliateLinks
