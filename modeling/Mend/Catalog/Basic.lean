import Mend.Template

/-!
Catalogs of templates. Templates are added one by one until the catalog is frozen; within a
category each has a name of its own. A diagnostic is given to the template of its category that
matches its message with the highest confidence, the earliest of several.
-/

namespace Mend

structure Catalog (S : Type := Strategy) where
  /-- The templates of each category. Categories and templates stand in the order in which they
  came. -/
  buckets : List (Category × List (Template S))
  frozen : Bool
  deriving Inhabited

namespace Catalog

variable {S : Type}

def empty : Catalog S := ⟨[], false⟩

def bucket (c : Catalog S) (category : Category) : List (Template S) :=
  (c.buckets.lookup category).getD []

def get? (c : Catalog S) (category : Category) (name : String) : Option (Template S) :=
  (c.bucket category).find? (·.name = name)

def withBucket (c : Catalog S) (category : Category) : Catalog S :=
  if (c.buckets.lookup category).isSome then c
  else { c with buckets := c.buckets ++ [(category, [])] }

def push (c : Catalog S) (t : Template S) : Catalog S :=
  { c with buckets := c.buckets.map fun b => if b.1 = t.category then (b.1, b.2 ++ [t]) else b }

/-- Registers a template, if it can be. Its bucket is made before its name is looked for there. -/
def register (c : Catalog S) (t : Template S) : Except RegistrationError (Template S) × Catalog S :=
  if c.frozen then (.error (.frozen t.qualifiedName), c)
  else
    let c := c.withBucket t.category
    if (c.bucket t.category).any (·.name = t.name) then (.error (.duplicate t.qualifiedName), c)
    else (.ok t, c.push t)

def declare (c : Catalog S) (d : Declaration S) :
    Except RegistrationError (Template S) × Catalog S :=
  match d.check with
  | .ok t => c.register t
  | .error e => (.error e, c)

def add (c : Catalog S) (d : Declaration S) : Except RegistrationError (Template S × Catalog S) :=
  (c.declare d).1.map (·, (c.declare d).2)

def freeze (c : Catalog S) : Catalog S := { c with frozen := true }

def list (c : Catalog S) : List (Template S) := c.buckets.flatMap (·.2)

def qualifiedNames (c : Catalog S) : List String := c.list.map (·.qualifiedName)

def count : List (Category × List (Template S)) → Nat
  | [] => 0
  | b :: bs => b.2.length + count bs

def size (c : Catalog S) : Nat := count c.buckets

/-- The first template of the highest confidence, `best` being the best one so far. -/
def strongest (best : Option (Template S)) : List (Template S) → Option (Template S)
  | [] => best
  | t :: ts =>
    match best with
    | none => strongest (some t) ts
    | some b => strongest (some (if Number.lt b.confidence t.confidence then t else b)) ts

def classify (c : Catalog S) (d : Diagnostic) : Option (Template S) :=
  match d.category? with
  | none => none
  | some k => strongest none ((c.bucket k).filter (·.matchesMessage d))

def isAutoFixable (c : Catalog S) (d : Diagnostic) : Bool := (c.classify d).any (·.autoFixable)

def probes (c : Catalog) (d : Diagnostic) (context : Option Context) : List String :=
  match c.classify d with
  | some t => t.strategy.probes d context
  | none => []

def covers (c : Catalog S) (category : Category) : Bool := !(c.bucket category).isEmpty

end Catalog

end Mend
