/-!
# Notices

A computation that may fail and that tells the user things along the way gives a `Noted`: what was
told, in order, and the result. Notices told before a failure are kept.
-/

namespace ClusterPlan

/-- How much a notice matters, the most urgent first. -/
inductive Severity where
  | error
  | warn
  | info
  | debug
  | trace
deriving Repr, DecidableEq

/-- The word that starts the line of a notice. -/
def Severity.word : Severity → String
  | .error => "ERROR"
  | .warn => "WARN"
  | .info => "INFO"
  | .debug => "DEBUG"
  | .trace => "TRACE"

/-- The place of a severity, from 1 for errors to 5 for traces. -/
def Severity.rank : Severity → Nat
  | .error => 1
  | .warn => 2
  | .info => 3
  | .debug => 4
  | .trace => 5

/-- The part of the program that tells a notice. -/
inductive Origin where
  | program
  | filters
  | assembly
  | options
  | lifecycle
deriving Repr, DecidableEq

/-- The path of a part of the program, by whose beginning notices are selected. -/
def Origin.path : Origin → String
  | .program => "k3dforge"
  | .filters => "k3dforge::cluster::filter"
  | .assembly => "k3dforge::cluster::assembler"
  | .options => "k3dforge::config::validation"
  | .lifecycle => "k3dforge::cluster::lifecycle"

/-- Something that is told to the user. -/
structure Notice where
  severity : Severity
  origin : Origin
  text : String
deriving Repr, DecidableEq

/-- The result of a computation, and what it told on the way. -/
structure Noted (ε α : Type) where
  notices : List Notice
  result : Except ε α

namespace Noted

variable {ε δ α β : Type}

/-- A value about which nothing is told. -/
def ofExcept (result : Except ε α) : Noted ε α :=
  ⟨[], result⟩

/-- A failure about which nothing is told. -/
def fail (e : ε) : Noted ε α :=
  ofExcept (.error e)

/-- Tells a notice. -/
def tell (severity : Severity) (origin : Origin) (text : String) : Noted ε Unit :=
  ⟨[⟨severity, origin, text⟩], .ok ()⟩

/-- Tells a notice if the condition holds. -/
def tellIf (condition : Bool) (severity : Severity) (origin : Origin) (text : String) :
    Noted ε Unit :=
  if condition then tell severity origin text else ofExcept (.ok ())

/-- Goes on with the value, or stops at the failure; the notices of both parts stand in order. -/
def andThen (x : Noted ε α) (f : α → Noted ε β) : Noted ε β :=
  match x.result with
  | .error e => ⟨x.notices, .error e⟩
  | .ok a => ⟨x.notices ++ (f a).notices, (f a).result⟩

instance : Monad (Noted ε) where
  pure a := ofExcept (.ok a)
  bind := andThen

/-- The same computation with its failure seen as one of another kind. -/
def mapError (f : ε → δ) (x : Noted ε α) : Noted δ α :=
  ⟨x.notices, x.result.mapError f⟩

@[simp] theorem result_ofExcept (r : Except ε α) : (ofExcept r).result = r := rfl

@[simp] theorem result_fail (e : ε) : (fail e : Noted ε α).result = .error e := rfl

@[simp] theorem result_tell (s : Severity) (o : Origin) (t : String) :
    (tell s o t : Noted ε Unit).result = .ok () := rfl

@[simp] theorem result_tellIf (b : Bool) (s : Severity) (o : Origin) (t : String) :
    (tellIf b s o t : Noted ε Unit).result = .ok () := by
  cases b <;> rfl

@[simp] theorem result_pure (a : α) : (pure a : Noted ε α).result = .ok a := rfl

@[simp] theorem result_bind (x : Noted ε α) (f : α → Noted ε β) :
    (x >>= f).result = x.result.bind fun a => (f a).result := by
  cases h : x.result <;> simp [bind, andThen, h, Except.bind]

@[simp] theorem result_mapError (f : ε → δ) (x : Noted ε α) :
    (x.mapError f).result = x.result.mapError f := rfl

/-- A computation in two parts succeeds if both parts do. -/
theorem bind_eq_ok_iff {x : Noted ε α} {f : α → Noted ε β} {b : β} :
    (x >>= f).result = .ok b ↔ ∃ a, x.result = .ok a ∧ (f a).result = .ok b := by
  rw [result_bind]
  cases x.result <;> simp [Except.bind]

/-- What holds of every value that a computation can have holds of the one that is computed. -/
theorem exists_of_map_eq_some {x : Noted ε α} {f : α → β} {b : β} {P : α → Prop}
    (h : x.result.toOption.map f = some b) (hp : ∀ a, x.result = .ok a → P a) :
    ∃ a, x.result = .ok a ∧ f a = b ∧ P a := by
  cases hx : x.result with
  | error => rw [hx] at h; cases h
  | ok a => rw [hx] at h; exact ⟨a, rfl, Option.some.inj h, hp a hx⟩

end Noted
end ClusterPlan
