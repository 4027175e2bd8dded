import RuleStack.KeyMap
import RuleStack.Number
set_option autoImplicit false

namespace RuleStack

inductive Json where
  | null
  | bool (value : Bool)
  | num (value : Number)
  | str (value : String)
  | arr (items : List Json)
  | obj (members : List (String × Json))
  deriving Repr, Inhabited

namespace Json

mutual
def decEq : (a b : Json) → Decidable (a = b)
  | .null, .null => isTrue rfl
  | .bool x, .bool y => decidable_of_iff (x = y) (by simp)
  | .num x, .num y => decidable_of_iff (x = y) (by simp)
  | .str x, .str y => decidable_of_iff (x = y) (by simp)
  | .arr xs, .arr ys =>
    match decEqItems xs ys with
    | isTrue h => isTrue (by rw [h])
    | isFalse h => isFalse (fun he => h (by injection he))
  | .obj xs, .obj ys =>
    match decEqMembers xs ys with
    | isTrue h => isTrue (by rw [h])
    | isFalse h => isFalse (fun he => h (by injection he))
  | .null, .bool _ | .null, .num _ | .null, .str _ | .null, .arr _ | .null, .obj _
  | .bool _, .null | .bool _, .num _ | .bool _, .str _ | .bool _, .arr _ | .bool _, .obj _
  | .num _, .null | .num _, .bool _ | .num _, .str _ | .num _, .arr _ | .num _, .obj _
  | .str _, .null | .str _, .bool _ | .str _, .num _ | .str _, .arr _ | .str _, .obj _
  | .arr _, .null | .arr _, .bool _ | .arr _, .num _ | .arr _, .str _ | .arr _, .obj _
  | .obj _, .null | .obj _, .bool _ | .obj _, .num _ | .obj _, .str _ | .obj _, .arr _ =>
    isFalse (by intro h; injection h)

def decEqItems : (xs ys : List Json) → Decidable (xs = ys)
  | [], [] => isTrue rfl
  | [], _ :: _ | _ :: _, [] => isFalse (by intro h; injection h)
  | x :: xs, y :: ys =>
    match decEq x y, decEqItems xs ys with
    | isTrue hx, isTrue hxs => isTrue (by rw [hx, hxs])
    | isFalse hx, _ => isFalse (fun he => hx (List.cons.inj he).1)
    | _, isFalse hxs => isFalse (fun he => hxs (List.cons.inj he).2)

def decEqMembers : (xs ys : List (String × Json)) → Decidable (xs = ys)
  | [], [] => isTrue rfl
  | [], _ :: _ | _ :: _, [] => isFalse (by intro h; injection h)
  | (k, x) :: xs, (l, y) :: ys =>
    if hk : k = l then
      match decEq x y, decEqMembers xs ys with
      | isTrue hx, isTrue hxs => isTrue (by rw [hk, hx, hxs])
      | isFalse hx, _ => isFalse (fun he => hx (Prod.mk.inj (List.cons.inj he).1).2)
      | _, isFalse hxs => isFalse (fun he => hxs (List.cons.inj he).2)
    else isFalse (fun he => hk (Prod.mk.inj (List.cons.inj he).1).1)
end

instance : DecidableEq Json := decEq

def ofNat (value : Nat) (h : value ≤ Number.maxWhole) : Json := .num (.ofNat value h)

def object (members : List (String × Json)) : Json := .obj (KeyMap.ofList members).entries

def ofMap (members : KeyMap Json) : Json := .obj members.entries

def strings (values : List String) : Json := .arr (values.map .str)

mutual
def normalize : Json → Json
  | .arr items => .arr (normalizeItems items)
  | .obj members => object (normalizeMembers members)
  | value => value

def normalizeItems : List Json → List Json
  | [] => []
  | item :: rest => item.normalize :: normalizeItems rest

def normalizeMembers : List (String × Json) → List (String × Json)
  | [] => []
  | (key, value) :: rest => (key, value.normalize) :: normalizeMembers rest
end

mutual
/-- Every object in the value lists its members in strictly increasing key order. -/
def Normal : Json → Prop
  | .arr items => NormalItems items
  | .obj members => members.Pairwise (fun a b => a.1 < b.1) ∧ NormalMembers members
  | _ => True

def NormalItems : List Json → Prop
  | [] => True
  | item :: rest => item.Normal ∧ NormalItems rest

def NormalMembers : List (String × Json) → Prop
  | [] => True
  | (_, value) :: rest => value.Normal ∧ NormalMembers rest
end

mutual
/-- Equality of values, member by member; numbers are compared by value. -/
def same : Json → Json → Bool
  | .null, .null => true
  | .bool a, .bool b => a == b
  | .num a, .num b => a.same b
  | .str a, .str b => a == b
  | .arr a, .arr b => sameItems a b
  | .obj a, .obj b => sameMembers a b
  | _, _ => false

def sameItems : List Json → List Json → Bool
  | [], [] => true
  | a :: as, b :: bs => a.same b && sameItems as bs
  | _, _ => false

def sameMembers : List (String × Json) → List (String × Json) → Bool
  | [], [] => true
  | (k, a) :: as, (l, b) :: bs => k == l && a.same b && sameMembers as bs
  | _, _ => false
end

def asText? : Json → Option String
  | .str value => some value
  | _ => none

def member? (key : String) : Json → Option Json
  | .obj members => members.lookup key
  | _ => none

end Json
end RuleStack
