import AffiliateLinks.Text.Numeral

/-!
# Log messages and document labels

A computation that logs returns its messages beside its value. A message gets a label when a thread
writes it: the document that the thread is working on, or none.
-/

namespace AffiliateLinks

inductive Level
  | error | warn | info | debug | trace
  deriving DecidableEq, Repr

namespace Level

/-- A threshold admits the levels of at most its rank. -/
def rank : Level → Nat
  | error => 1
  | warn => 2
  | info => 3
  | debug => 4
  | trace => 5

def word : Level → Text
  | error => "ERROR".toList
  | warn => "WARN".toList
  | info => "INFO".toList
  | debug => "DEBUG".toList
  | trace => "TRACE".toList

def admits (threshold level : Level) : Bool := level.rank ≤ threshold.rank

/-- The more talkative of two thresholds. -/
def max (a b : Level) : Level := if a.admits b then a else b

end Level

/-- The part of the program that a message comes from. -/
inductive Component
  | scan | rewrite | batch | ledger | output | command
  deriving DecidableEq, Repr

def Component.path : Component → Text
  | scan => "monetizer_core::scan".toList
  | rewrite => "monetizer_core::rewrite".toList
  | batch => "monetizer_engine::batch".toList
  | ledger => "monetizer_engine::ledger".toList
  | output => "monetizer_engine::persist".toList
  | command => "monetize".toList

structure Message where
  level : Level
  component : Component
  text : Text
  deriving DecidableEq, Repr

/-- A value together with what was logged on the way to it. -/
structure WithLog (line : Type) (α : Type) where
  value : α
  log : List line

namespace WithLog

variable {line : Type}

instance : Monad (WithLog line) where
  pure a := ⟨a, []⟩
  bind x f :=
    let y := f x.value
    ⟨y.value, x.log ++ y.log⟩
  map f x := ⟨f x.value, x.log⟩

@[simp] theorem value_pure {α : Type} (a : α) : (pure a : WithLog line α).value = a := rfl

@[simp] theorem log_pure {α : Type} (a : α) : (pure a : WithLog line α).log = [] := rfl

@[simp] theorem value_bind {α β : Type} (x : WithLog line α) (f : α → WithLog line β) :
    (x >>= f).value = (f x.value).value := rfl

@[simp] theorem log_bind {α β : Type} (x : WithLog line α) (f : α → WithLog line β) :
    (x >>= f).log = x.log ++ (f x.value).log := rfl

@[simp] theorem value_map {α β : Type} (f : α → β) (x : WithLog line α) :
    (f <$> x).value = f x.value := rfl

@[simp] theorem log_map {α β : Type} (f : α → β) (x : WithLog line α) :
    (f <$> x).log = x.log := rfl

end WithLog

/-- A value and the messages on the way to it, before a thread labels them. -/
abbrev Logged := WithLog Message

def Logged.tell (level : Level) (component : Component) (text : Text) : Logged Unit :=
  ⟨(), [⟨level, component, text⟩]⟩

/-- A message as a thread wrote it. -/
structure Line where
  thread : Nat
  label : Option Text
  message : Message
  deriving DecidableEq, Repr

namespace Line

/-- The label in brackets, a hyphen when there is none, and then the text. -/
def body (l : Line) : Text := '[' :: l.label.getD ['-'] ++ [']', ' '] ++ l.message.text

def render (l : Line) : Text := l.message.level.word ++ ' ' :: l.body

/-- As `render`, with the component that the message comes from, and from debug on with the thread. -/
def renderFull (l : Line) : Text :=
  '[' :: l.message.level.word ++ [']', ' '] ++
    (if l.message.level.admits .debug then '(' :: Numeral.decimal l.thread ++ [')', ' '] else []) ++
    l.message.component.path ++ [':', ' '] ++ l.body

end Line

inductive Action
  | setLabel (label : Text)
  | clearLabel
  | enter (label : Text)
  | leave
  | say (message : Message)
  deriving DecidableEq, Repr

/-- A thread's number and label, and how many scopes it has entered and not left. Leaving a scope
always clears the label: the label from before the scope does not come back. -/
structure Thread where
  number : Nat
  label : Option Text
  scopes : Nat
  deriving DecidableEq, Repr

namespace Thread

/-- A thread that has no label yet. The thread that a program starts with is number one. -/
def start (number : Nat) : Thread := ⟨number, none, 0⟩

def line (t : Thread) (m : Message) : Line := ⟨t.number, t.label, m⟩

def act (t : Thread) : Action → Thread × List Line
  | .setLabel l => ({ t with label := some l }, [])
  | .clearLabel => ({ t with label := none }, [])
  | .enter l => ({ t with label := some l, scopes := t.scopes + 1 }, [])
  | .leave => (if t.scopes = 0 then t else { t with label := none, scopes := t.scopes - 1 }, [])
  | .say m => (t, [t.line m])

def run (t : Thread) : List Action → Thread × List Line
  | [] => (t, [])
  | a :: as =>
    let (t, first) := t.act a
    let (t, rest) := run t as
    (t, first ++ rest)

end Thread

end AffiliateLinks
