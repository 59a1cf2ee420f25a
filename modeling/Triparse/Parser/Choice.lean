import Triparse.Parser.Basic

/-!
# Ordered choice

The first alternative that matches at the start wins; later ones are not run.
-/

set_option autoImplicit false

namespace Triparse.Parser

variable {α β : Type} {m : Type → Type}

/-- The reply of the first parser that matches, if one does; `index` is that of the first. -/
def firstMatch [Monad m] [MonadLiftT Run m] (input : Input) (cursor : Nat) :
    List (Parser α m) → Nat → m (Option (Reply α))
  | [], _ => pure none
  | p :: ps, index => do
    let reply ← p.execute input cursor
    match reply.outcome with
    | .ok _ => pure (some reply)
    | .error e => do
      Run.emit (.alternativeFailed index e)
      firstMatch input cursor ps (index + 1)

/-- The shapes that some parser of a list accepts; every shape for the empty list. -/
def acceptsAny : List (Parser α m) → Modalities
  | [] => .univ
  | ps => ps.foldl (fun s p => s ∪ p.accepts) .empty

/-- The shapes accepted depend on what each parser accepts, and on nothing else of it. -/
theorem acceptsAny_congr {n : Type → Type} {ps : List (Parser α m)} {qs : List (Parser β n)}
    (h : ps.map accepts = qs.map accepts) : acceptsAny ps = acceptsAny qs :=
  match ps, qs, h with
  | [], [], _ => rfl
  | p :: ps, q :: qs, h => by
    have hf := congrArg (List.foldl (· ∪ ·) .empty) h
    rwa [List.foldl_map, List.foldl_map] at hf

/-- The first alternative that matches. -/
def choice [Monad m] [MonadLiftT Run m] (ps : List (Parser α m)) : Parser α m where
  name := "choice"
  expected := "one of " ++ String.intercalate ", " (ps.map expected)
  accepts := acceptsAny ps
  parse input cursor := do
    match ← firstMatch input cursor ps 0 with
    | some reply => pure reply
    | none =>
      pure (.fail cursor (input.noMatch cursor "choice"
        ("one of " ++ String.intercalate ", " (ps.map expected))))

/-- The first of two alternatives that matches. -/
def or [Monad m] [MonadLiftT Run m] (p q : Parser α m) : Parser α m := choice [p, q]

end Triparse.Parser
