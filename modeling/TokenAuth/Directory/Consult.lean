import TokenAuth.Account.Credentials
import TokenAuth.Account.Registration
import TokenAuth.Directory.Fault

/-!
Computations that ask the directory, as trees of questions: what is asked depends on the answers
so far, and the whole course is open to inspection.
-/

namespace TokenAuth.Directory

/-- What the directory is asked. -/
inductive Call
  | find (email : String)
  | create (user : NewUser)
deriving DecidableEq

/-- A computation that may ask the directory of accounts before it gives its result. -/
inductive Consult (α : Type)
  | done (a : α)
  | find (email : String) (next : Except Fault (Option Credentials) → Consult α)
  | create (user : NewUser) (next : Except Fault RegisteredUser → Consult α)

namespace Consult

def map {α β : Type} (f : α → β) : Consult α → Consult β
  | done a => done (f a)
  | find email next => find email fun answer => (next answer).map f
  | create user next => create user fun answer => (next answer).map f

end Consult

/-- A directory whose answers depend on a state. -/
structure Service (σ : Type) where
  find : String → σ → Except Fault (Option Credentials) × σ
  create : NewUser → σ → Except Fault RegisteredUser × σ

/-- The result of a computation, the calls it made in order, and the state after them. -/
structure Run (α σ : Type) where
  result : α
  calls : List Call
  state : σ

namespace Consult

def run {α σ : Type} (service : Service σ) : Consult α → σ → Run α σ
  | done a, s => ⟨a, [], s⟩
  | find email next, s =>
    let (answer, s) := service.find email s
    let rest := (next answer).run service s
    ⟨rest.result, .find email :: rest.calls, rest.state⟩
  | create user next, s =>
    let (answer, s) := service.create user s
    let rest := (next answer).run service s
    ⟨rest.result, .create user :: rest.calls, rest.state⟩

end Consult

end TokenAuth.Directory
