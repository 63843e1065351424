import AffiliateLinks.Ron.Token

/-!
# Values of RON

The tokens of a text make one value. A file may first turn on extensions: options without `Some`, or
names that structures must have. A value may then have to stand for a text, a counter, an option, a
list, or a record with a given name. A record's fields may come in any order, each at most once, and
unknown ones are left aside.
-/

namespace AffiliateLinks

namespace Ron

/-- A group in parentheses is a record if its first item has a name, and else a tuple; either may
have a name in front. Literals are values of kinds that nothing here is made of. -/
inductive Value
  | unit (name : Text)
  | bool (b : Bool)
  | number (literal : Text)
  | string (t : Text)
  | literal
  | absent
  | present (v : Value)
  | list (vs : List Value)
  | map (kvs : List (Value × Value))
  | tuple (name : Option Text) (vs : List Value)
  | record (name : Option Text) (fields : List (Text × Value))
  deriving Repr

structure Extensions where
  implicitSome : Bool
  explicitNames : Bool
  deriving DecidableEq, Repr

namespace Extensions

def none : Extensions := ⟨false, false⟩

def add? (e : Extensions) (name : Text) : Option Extensions :=
  if name = "implicit_some".toList then some { e with implicitSome := true }
  else if name = "explicit_struct_names".toList then some { e with explicitNames := true }
  else if name = "unwrap_newtypes".toList || name = "unwrap_variant_newtypes".toList then some e
  else .none

/-- The names up to the closing parenthesis, separated by commas. -/
def readNames : Extensions → List Token → Option (Extensions × List Token)
  | e, .word n :: .punct ',' :: .punct ')' :: ts => do return (← e.add? n, ts)
  | e, .word n :: .punct ')' :: ts => do return (← e.add? n, ts)
  | e, .word n :: .punct ',' :: ts => do readNames (← e.add? n) ts
  | _, _ => .none

theorem length_readNames {e e' : Extensions} {ts rest : List Token}
    (h : readNames e ts = some (e', rest)) : rest.length < ts.length := by
  fun_induction readNames e ts with
  | case1 e n ts =>
    simp only [Option.bind_eq_bind, Option.pure_def, Option.bind_eq_some_iff, Option.some.injEq,
      Prod.mk.injEq] at h
    obtain ⟨_, _, _, rfl⟩ := h
    simp only [List.length_cons]
    omega
  | case2 e n ts =>
    simp only [Option.bind_eq_bind, Option.pure_def, Option.bind_eq_some_iff, Option.some.injEq,
      Prod.mk.injEq] at h
    obtain ⟨_, _, _, rfl⟩ := h
    simp only [List.length_cons]
    omega
  | case3 e n ts _ ih =>
    simp only [Option.bind_eq_bind, Option.bind_eq_some_iff] at h
    obtain ⟨a, _, h⟩ := h
    have := ih a h
    simp only [List.length_cons]
    omega
  | case4 => simp at h

/-- The attributes at the head of a file. -/
def read (e : Extensions) (ts : List Token) : Option (Extensions × List Token) :=
  match ts with
  | .punct '#' :: .punct '!' :: .punct '[' :: .word w :: .punct '(' :: rest =>
    if w = "enable".toList then
      match _h : readNames e rest with
      | some (e, .punct ']' :: rest') => read e rest'
      | _ => .none
    else .none
  | .punct '#' :: _ => .none
  | ts => some (e, ts)
  termination_by ts.length
  decreasing_by
    have := length_readNames _h
    simp only [List.length_cons] at this ⊢
    omega

end Extensions

namespace Value

/-- How many groups, lists, maps and options may stand inside each other. -/
def depthLimit : Nat := 128

/-- The depth that is left inside one more group. -/
def inside? : Nat → Option Nat
  | 0 => none
  | n + 1 => some n

mutual

/-- The value at the head, and the rest. -/
def read? : Nat → Nat → List Token → Option (Value × List Token)
  | 0, _, _ => none
  | fuel + 1, depth, ts =>
    match ts with
    | .string s :: ts => some (.string s, ts)
    | .number n :: ts => some (.number n, ts)
    | .literal :: ts => some (.literal, ts)
    | .punct '[' :: ts => do
      let (vs, ts) ← readItems? fuel (← inside? depth) ']' ts
      return (.list vs, ts)
    | .punct '\x7b' :: ts => do
      let (kvs, ts) ← readEntries? fuel (← inside? depth) ts
      return (.map kvs, ts)
    | .punct '(' :: ts => readGroup? fuel depth none ts
    | .rawWord w :: .punct '(' :: ts => readGroup? fuel depth (some w) ts
    | .rawWord w :: ts => some (.unit w, ts)
    | .word w :: ts =>
      if w = "true".toList then some (.bool true, ts)
      else if w = "false".toList then some (.bool false, ts)
      else if w = "None".toList then some (.absent, ts)
      else if Text.startsWith "Some".toList w then
        match ts with
        | .punct '(' :: ts => do
          if w ≠ "Some".toList then none
          let (v, ts) ← read? fuel (← inside? depth) ts
          match ts with
          | .punct ',' :: .punct ')' :: ts => return (.present v, ts)
          | .punct ')' :: ts => return (.present v, ts)
          | _ => none
        | _ => none
      else if Number.infinities.contains w then some (.number w, ts)
      else
        match ts with
        | .punct '(' :: ts => readGroup? fuel depth (some w) ts
        | ts => some (.unit w, ts)
    | _ => none

/-- A group whose parenthesis has been read. -/
def readGroup? : Nat → Nat → Option Text → List Token → Option (Value × List Token)
  | 0, _, _, _ => none
  | fuel + 1, depth, name, ts =>
    match ts with
    | .word _ :: .punct ':' :: _ | .rawWord _ :: .punct ':' :: _ => do
      let (fs, ts) ← readFields? fuel (← inside? depth) ts
      return (.record name fs, ts)
    | ts => do
      let (vs, ts) ← readItems? fuel (← inside? depth) ')' ts
      return (.tuple name vs, ts)

/-- Values up to the closing mark, with commas between them and perhaps one at the end. -/
def readItems? : Nat → Nat → Char → List Token → Option (List Value × List Token)
  | 0, _, _, _ => none
  | fuel + 1, depth, close, ts =>
    match ts with
    | .punct c :: rest =>
      if c = close then some ([], rest) else readItem? fuel depth close ts
    | ts => readItem? fuel depth close ts

def readItem? : Nat → Nat → Char → List Token → Option (List Value × List Token)
  | 0, _, _, _ => none
  | fuel + 1, depth, close, ts => do
    let (v, ts) ← read? fuel depth ts
    match ts with
    | .punct ',' :: ts =>
      let (vs, ts) ← readItems? fuel depth close ts
      return (v :: vs, ts)
    | .punct c :: ts => if c = close then return ([v], ts) else none
    | _ => none

def readFields? : Nat → Nat → List Token → Option (List (Text × Value) × List Token)
  | 0, _, _ => none
  | fuel + 1, depth, ts =>
    match ts with
    | .punct ')' :: ts => some ([], ts)
    | .word k :: .punct ':' :: ts | .rawWord k :: .punct ':' :: ts => do
      let _ ← inside? depth
      let (v, ts) ← read? fuel depth ts
      match ts with
      | .punct ',' :: ts =>
        let (fs, ts) ← readFields? fuel depth ts
        return ((k, v) :: fs, ts)
      | .punct ')' :: ts => return ([(k, v)], ts)
      | _ => none
    | _ => none

def readEntries? : Nat → Nat → List Token → Option (List (Value × Value) × List Token)
  | 0, _, _ => none
  | fuel + 1, depth, ts =>
    match ts with
    | .punct '\x7d' :: ts => some ([], ts)
    | ts => do
      let (k, ts) ← read? fuel depth ts
      match ts with
      | .punct ':' :: ts =>
        let (v, ts) ← read? fuel depth ts
        match ts with
        | .punct ',' :: ts =>
          let (kvs, ts) ← readEntries? fuel depth ts
          return ((k, v) :: kvs, ts)
        | .punct '\x7d' :: ts => return ([(k, v)], ts)
        | _ => none
      | _ => none

end

/-- The value that a text stands for, and the extensions that it is read with. No token takes more
than three calls. -/
def ofText? (t : Text) : Option (Extensions × Value) := do
  let (e, ts) ← Extensions.read .none (← Token.ofText? t)
  match ← read? (3 * ts.length + 1) depthLimit ts with
  | (v, []) => return (e, v)
  | _ => none

end Value

/-- What a message says in the place of a reason why a text is not well-formed. -/
def malformed : Text := "<ron>".toList

end Ron

namespace Ron.Value

def text? : Value → Option Text
  | string t => some t
  | _ => none

def bool? : Value → Option Bool
  | bool b => some b
  | _ => none

def counter? : Value → Option Nat
  | number t => Number.counter? t
  | _ => none

def list? : Value → Option (List Value)
  | list vs => some vs
  | _ => none

def map? : Value → Option (List (Value × Value))
  | map kvs => some kvs
  | _ => none

/-- With the extension for it, a value that is no option stands for a present one. -/
def option? {α : Type} (e : Extensions) (read? : Value → Option α) : Value → Option (Option α)
  | absent => some none
  | present v => (read? v).map some
  | v => if e.implicitSome then (read? v).map some else none

def nameFits (e : Extensions) (name : Text) : Option Text → Bool
  | some n => n = name
  | none => !e.explicitNames

/-- The fields of a record of that name; a record without fields looks like an empty tuple. -/
def record? (e : Extensions) (name : Text) : Value → Option (List (Text × Value))
  | record n fs => if nameFits e name n then some fs else none
  | tuple n [] => if nameFits e name n then some [] else none
  | _ => none

/-- The value of a field that may be missing; `none` if the field is there twice or ill-formed. -/
def field? {α : Type} (fs : List (Text × Value)) (key : String) (read? : Value → Option α) :
    Option (Option α) :=
  match fs.filter fun f => f.1 = key.toList with
  | [] => some none
  | [(_, v)] => (read? v).map some
  | _ => none

/-- The value of a field that must be there. -/
def required? {α : Type} (fs : List (Text × Value)) (key : String) (read? : Value → Option α) :
    Option α := (field? fs key read?).join

end Ron.Value

end AffiliateLinks
