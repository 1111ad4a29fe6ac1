import QueryRewriting.Expr.Basic

/-!
Two ways of comparing trees. Two handles are the same node when everything about them agrees, the
identities included. Handles of one object in memory are not looked into, so nodes that are shared
many times over are compared at no cost. Two trees are alike when they agree in kinds, names and
static types, whoever built them.
-/

namespace QueryRewriting.Expr

open Json

/-- Decides what holds exactly when two parts hold. The second part is decided only where the first
one holds. -/
@[inline] def decideBoth {first second whole : Prop} (parts : whole ↔ first ∧ second)
    (decideFirst : Decidable first) (decideSecond : Unit → Decidable second) : Decidable whole :=
  match decideFirst with
  | isFalse fails => isFalse fun holds => fails (parts.mp holds).1
  | isTrue holdsFirst =>
    match decideSecond () with
    | isFalse fails => isFalse fun holds => fails (parts.mp holds).2
    | isTrue holdsSecond => isTrue (parts.mpr ⟨holdsFirst, holdsSecond⟩)

mutual

/-- Decides whether two trees are one and the same node. Of two objects the identities are compared
before anything below them is looked at. -/
def decEq (a b : Expr) : Decidable (a = b) :=
  withPtrEqDecEq a b fun _ =>
    if kinds : a.ctorIdx = b.ctorIdx then
      match a, b, kinds with
      | .value s v, .value t w, _ =>
        decideBoth (by grind) (decidable_of_iff (s = t) .rfl) fun _ => decidable_of_iff (v = w) .rfl
      | .queryable s p x e, .queryable t q y f, _ =>
        decideBoth (by grind) (decidable_of_iff (s = t ∧ p = q ∧ x = y) .rfl) fun _ => decEq e f
      | .parameter s x, .parameter t y, _ => decidable_of_iff (s = t ∧ x = y) (by grind)
      | .member s e x, .member t f y, _ =>
        decideBoth (by grind) (decidable_of_iff (s = t ∧ x = y) .rfl) fun _ => decEq e f
      | .source s q x as, .source t r y bs, _ =>
        decideBoth (by grind) (decidable_of_iff (s = t ∧ q = r ∧ x = y) .rfl) fun _ => decEqs as bs
      | .native s p x, .native t q y, _ => decidable_of_iff (s = t ∧ p = q ∧ x = y) (by grind)
      | .call s m as, .call t n bs, _ =>
        decideBoth (by grind) (decidable_of_iff (s = t ∧ m = n) .rfl) fun _ => decEqs as bs
      | .lambda s x e, .lambda t y f, _ =>
        decideBoth (by grind) (decidable_of_iff (s = t ∧ x = y) .rfl) fun _ => decEq e f
      | .binary s o e g, .binary t p f h, _ =>
        decideBoth (by grind) (decidable_of_iff (s = t ∧ o = p) .rfl) fun _ =>
          decideBoth .rfl (decEq e f) fun _ => decEq g h
      | .not s e, .not t f, _ =>
        decideBoth (by grind) (decidable_of_iff (s = t) .rfl) fun _ => decEq e f
    else isFalse fun same => kinds (congrArg _ same)

/-- Decides whether two lists hold the same nodes in the same places. -/
def decEqs : (as bs : List Expr) → Decidable (as = bs)
  | [], [] => isTrue rfl
  | [], _ :: _ | _ :: _, [] => isFalse nofun
  | a :: as, b :: bs => decideBoth (by grind) (decEq a b) fun _ => decEqs as bs

end

instance : DecidableEq Expr := decEq

mutual

/-- Whether two trees agree in kinds, names and static types. Queryable constants agree when their
proxies and trees do. -/
def alike : Expr → Expr → Bool
  | .value s v, .value t w => s.type == t.type && v.same w
  | .queryable s p _ e, .queryable t q _ f => s.type == t.type && p == q && alike e f
  | .parameter s x, .parameter t y => s.type == t.type && x == y
  | .member s a x, .member t b y => s.type == t.type && x == y && alike a b
  | .source s q x as, .source t r y bs => s.type == t.type && q == r && x == y && allAlike as bs
  | .native s p x, .native t q y => s.type == t.type && p == q && x == y
  | .call s m as, .call t n bs => s.type == t.type && m == n && allAlike as bs
  | .lambda s x a, .lambda t y b => s.type == t.type && x == y && alike a b
  | .binary s o a c, .binary t p b d => s.type == t.type && o == p && alike a b && alike c d
  | .not s a, .not t b => s.type == t.type && alike a b
  | _, _ => false

/-- Whether two lists hold trees that are alike in the same places. -/
def allAlike : List Expr → List Expr → Bool
  | [], [] => true
  | a :: as, b :: bs => alike a b && allAlike as bs
  | _, _ => false

end

end QueryRewriting.Expr
