import LexScan.Text

/-!
# Diagnostic records

What a computation has to say about itself, beside its result. Records are
values: `Logged α` holds a result together with the records made on the way,
oldest first, and no result depends on them.
-/

namespace LexScan

namespace Log

/-- How grave a record is, the gravest first. -/
inductive Level where
  | error | warn | info | debug | trace
deriving DecidableEq, Repr

def Level.name : Level → Text
  | error => "ERROR".toList
  | warn => "WARN".toList
  | info => "INFO".toList
  | debug => "DEBUG".toList
  | trace => "TRACE".toList

def Level.rank : Level → Nat
  | error => 1
  | warn => 2
  | info => 3
  | debug => 4
  | trace => 5

structure Record where
  level : Level
  message : Text
deriving DecidableEq, Repr

/-- The record with its level before it. -/
def Record.display (r : Record) : Text := r.level.name ++ [' '] ++ r.message

/-- Which records are kept: none, or those that are at least as grave as a level. -/
inductive Filter where
  | off
  | upTo (level : Level)
deriving DecidableEq, Repr

def Filter.keeps : Filter → Record → Bool
  | off, _ => false
  | upTo level, r => r.level.rank ≤ level.rank

/-- The filter that a setting names, in letters of either case. -/
def Filter.ofName? (name : Text) : Option Filter :=
  let name := name.map Char.toUpper
  if name = "OFF".toList then some off
  else ([.error, .warn, .info, .debug, .trace].find? fun l : Level => l.name = name).map upTo

end Log

/-- A result and the records made while computing it. -/
structure Logged (α : Type) where
  value : α
  log : List Log.Record := []

namespace Logged

variable {α β : Type}

instance : Monad Logged where
  pure a := ⟨a, []⟩
  map f x := ⟨f x.value, x.log⟩
  bind x f := ⟨(f x.value).value, x.log ++ (f x.value).log⟩

/-- The result with the fact which computation it is the result of. -/
def attach (x : Logged α) : Logged { a : α // a = x.value } := ⟨⟨x.value, rfl⟩, x.log⟩

/-- The result with the records made while computing it. -/
def listen (x : Logged α) : Logged (α × List Log.Record) := ⟨(x.value, x.log), x.log⟩

/-- One record and no result. -/
def tell (r : Log.Record) : Logged Unit := ⟨(), [r]⟩

def trace (message : Text) : Logged Unit := tell ⟨.trace, message⟩

def debug (message : Text) : Logged Unit := tell ⟨.debug, message⟩

def error (message : Text) : Logged Unit := tell ⟨.error, message⟩

@[simp] theorem value_pure (a : α) : (pure a : Logged α).value = a := rfl

@[simp] theorem value_bind (x : Logged α) (f : α → Logged β) :
    (x >>= f).value = (f x.value).value := rfl

@[simp] theorem log_pure (a : α) : (pure a : Logged α).log = [] := rfl

@[simp] theorem log_bind (x : Logged α) (f : α → Logged β) :
    (x >>= f).log = x.log ++ (f x.value).log := rfl

@[simp] theorem value_map (f : α → β) (x : Logged α) : (f <$> x).value = f x.value := rfl

@[simp] theorem value_attach (x : Logged α) : x.attach.value = ⟨x.value, rfl⟩ := rfl

@[simp] theorem log_attach (x : Logged α) : x.attach.log = x.log := rfl

@[simp] theorem value_listen (x : Logged α) : x.listen.value = (x.value, x.log) := rfl

@[simp] theorem log_listen (x : Logged α) : x.listen.log = x.log := rfl

@[simp] theorem log_tell (r : Log.Record) : (tell r).log = [r] := rfl

@[simp] theorem log_map (f : α → β) (x : Logged α) : (f <$> x).log = x.log := rfl

end Logged

end LexScan
