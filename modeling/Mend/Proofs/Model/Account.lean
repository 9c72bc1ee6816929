import Mathlib.Data.List.Forall2
import Mend.Model.Account

namespace Mend

def Environment.Holds (env : Environment) (name key : String) : Prop :=
  env.lookup name = some key ∧ key ≠ ""

theorem Environment.key_of_holds {env : Environment} {name key : String} (h : env.Holds name key) :
    env.key name = .ok key := by
  unfold Environment.key
  rw [h.1]
  exact if_neg h.2

theorem Environment.key_of_not_holds {env : Environment} {name : String}
    (h : ∀ key, ¬ env.Holds name key) : env.key name = .error (key.missing name) := by
  unfold Environment.key
  cases hlookup : env.lookup name with
  | none => rfl
  | some key =>
    have hempty : key = "" := by
      by_contra hne
      exact h key ⟨hlookup, hne⟩
    exact if_pos hempty

theorem Environment.isOk_key_iff (env : Environment) (name : String) :
    (env.key name).isOk = true ↔ ∃ key, env.Holds name key := by
  by_cases h : ∃ key, env.Holds name key
  · obtain ⟨key, hkey⟩ := h
    rw [key_of_holds hkey]
    exact iff_of_true rfl ⟨key, hkey⟩
  · rw [key_of_not_holds (not_exists.1 h)]
    exact iff_of_false Bool.false_ne_true h

namespace Account

inductive Use
  | check (env : Environment) (installed : Bool)
  | call (env : Environment) (reply : String → Request → Answer) (c : Call)

inductive Shown
  | available (b : Bool)
  | visited (turn : Turn Completion) (contacts : List Contact)

/-- A use: what it shows, and the client from then on. -/
def use (a : Account) (client : Client) : Use → Shown × Client
  | .check env installed => (.available (a.isAvailable env installed), client)
  | .call env reply c =>
    let v := a.visit env reply c client
    (.visited v.turn v.contacts, v.client)

def useAll (a : Account) (client : Client) : List Use → List (Shown × Client)
  | [] => []
  | u :: us => a.use client u :: a.useAll (a.use client u).2 us

def Contact.openedKey? : Contact → Option String
  | opened key => some key
  | sent _ _ => none

def Shown.openings : Shown → List String
  | available _ => []
  | visited _ contacts => contacts.filterMap Contact.openedKey?

variable {a : Account} {env : Environment} {reply : String → Request → Answer} {c : Call}
  {key : String} {us : List Use} {u : Use} {shown : List (Shown × Client)} {s : Shown × Client}

/-- The request asks what the call asks, of the model of the account and within its bound. -/
structure Carries (a : Account) (c : Call) (r : Request) : Prop where
  model : r.model = a.model
  maxTokens : r.maxTokens = min c.maxTokens a.maxTokens
  prompt : r.prompt = c.prompt
  timeout : r.timeout = c.timeout
  modelField : ∀ v, (r.toJson v).field? "model" = some (.str a.model)
  maxTokensField : ∀ v,
    (r.toJson v).field? "max_tokens" = some (.num (.int (min c.maxTokens a.maxTokens)))

/-- A check tells whether the library is there and the environment holds a key. -/
def Tells (a : Account) (env : Environment) (installed b : Bool) : Prop :=
  b = true ↔ installed = true ∧ ∃ key, env.Holds a.keyName key

/-- What a use shows that finds no client, and no key to open one. -/
inductive Keyless (a : Account) : Use → Shown × Client → Prop
  | check (env : Environment) (installed b : Bool) (h : a.Tells env installed b) :
    Keyless a (.check env installed) (.available b, none)
  | call (env : Environment) (reply : String → Request → Answer) (c : Call)
      (h : ∀ key, ¬ env.Holds a.keyName key) :
    Keyless a (.call env reply c)
      (.visited (.failed ⟨.authentication,
        "No API key found. Set the " ++ a.keyName ++ " environment variable."⟩) [], none)

/-- What a use shows that finds the client for a key. -/
inductive Served (a : Account) (key : String) : Use → Shown × Client → Prop
  | check (env : Environment) (installed b : Bool) (h : a.Tells env installed b) :
    Served a key (.check env installed) (.available b, some key)
  | call (env : Environment) (reply : String → Request → Answer) (c : Call) (r : Request)
      (h : a.Carries c r) :
    Served a key (.call env reply c)
      (.visited (a.turn (reply key r)) [.sent key r], some key)

/-- What the uses of an account show: no call finds a key, or the first one that finds a key opens
the client with it, and the client serves the later ones. -/
inductive History (a : Account) : List Use → List (Shown × Client) → Prop
  | keyless {us : List Use} {shown : List (Shown × Client)}
      (h : List.Forall₂ (Keyless a) us shown) : History a us shown
  | opened {before after : List Use} {early late : List (Shown × Client)}
      (hbefore : List.Forall₂ (Keyless a) before early) (env : Environment)
      (reply : String → Request → Answer) (c : Call) (key : String) (r : Request)
      (hkey : env.Holds a.keyName key) (hr : a.Carries c r)
      (hafter : List.Forall₂ (Served a key) after late) :
    History a (before ++ .call env reply c :: after)
      (early ++ (.visited (a.turn (reply key r)) [.opened key, .sent key r], some key) :: late)

theorem carries_request (a : Account) (c : Call) : a.Carries c (a.request c) where
  model := rfl
  maxTokens := rfl
  prompt := rfl
  timeout := rfl
  modelField := fun _ => rfl
  maxTokensField := fun _ => rfl

theorem tells_isAvailable (a : Account) (env : Environment) (installed : Bool) :
    a.Tells env installed (a.isAvailable env installed) := by
  unfold Tells isAvailable
  rw [Bool.and_eq_true, Environment.isOk_key_iff]

theorem visit_of_holds (h : env.Holds a.keyName key) :
    a.visit env reply c none =
      ⟨a.turn (reply key (a.request c)), [.opened key, .sent key (a.request c)], some key⟩ := by
  unfold visit open?
  rw [Environment.key_of_holds h]
  rfl

theorem visit_of_not_holds (h : ∀ key, ¬ env.Holds a.keyName key) :
    a.visit env reply c none = ⟨.failed (Environment.key.missing a.keyName), [], none⟩ := by
  unfold visit open?
  rw [Environment.key_of_not_holds h]
  rfl

theorem served_use (a : Account) (key : String) (u : Use) :
    Served a key u (a.use (some key) u) := by
  cases u with
  | check env installed => exact .check env installed _ (tells_isAvailable a env installed)
  | call env reply c => exact .call env reply c _ (carries_request a c)

theorem Served.client_eq (h : Served a key u s) : s.2 = some key := by
  cases h with
  | check env installed b h => rfl
  | call env reply c r h => rfl

theorem served_useAll (a : Account) (key : String) (us : List Use) :
    List.Forall₂ (Served a key) us (a.useAll (some key) us) := by
  induction us with
  | nil => exact .nil
  | cons u us ih =>
    have huse := served_use a key u
    refine .cons huse ?_
    rw [huse.client_eq]
    exact ih

theorem History.cons (hu : Keyless a u s) (h : History a us shown) :
    History a (u :: us) (s :: shown) := by
  cases h with
  | keyless h => exact .keyless (.cons hu h)
  | opened hbefore env reply c key r hkey hr hafter =>
    exact .opened (.cons hu hbefore) env reply c key r hkey hr hafter

theorem history_useAll (a : Account) (us : List Use) : History a us (a.useAll none us) := by
  induction us with
  | nil => exact .keyless .nil
  | cons u us ih =>
    cases u with
    | check env installed =>
      exact ih.cons (.check env installed _ (tells_isAvailable a env installed))
    | call env reply c =>
      by_cases h : ∃ key, env.Holds a.keyName key
      · obtain ⟨key, hkey⟩ := h
        rw [useAll, use, visit_of_holds hkey]
        exact .opened .nil env reply c key _ hkey (carries_request a c) (served_useAll a key us)
      · have hnone := not_exists.1 h
        rw [useAll, use, visit_of_not_holds hnone]
        exact ih.cons (.call env reply c hnone)

theorem Keyless.openings (h : Keyless a u s) : s.1.openings = [] := by
  cases h with
  | check env installed b h => rfl
  | call env reply c h => rfl

theorem Served.openings (h : Served a key u s) : s.1.openings = [] := by
  cases h with
  | check env installed b h => rfl
  | call env reply c r h => rfl

theorem openings_eq_nil {P : Use → Shown × Client → Prop} (hP : ∀ u s, P u s → s.1.openings = [])
    (h : List.Forall₂ P us shown) : (shown.flatMap fun s => s.1.openings) = [] := by
  induction h with
  | nil => rfl
  | cons hu _ ih => rw [List.flatMap_cons, hP _ _ hu, ih, List.append_nil]

theorem History.openings (h : History a us shown) :
    (shown.flatMap fun s => s.1.openings).length ≤ 1 := by
  cases h with
  | keyless h =>
    rw [openings_eq_nil (fun _ _ => Keyless.openings) h]
    exact Nat.zero_le 1
  | opened hbefore env reply c key r hkey hr hafter =>
    rw [List.flatMap_append, List.flatMap_cons,
      openings_eq_nil (fun _ _ => Keyless.openings) hbefore,
      openings_eq_nil (fun _ _ => Served.openings) hafter]
    exact Nat.le_refl 1

/-- However an account is used, its client is opened at most once, by the first call that finds a
key and with this key. The calls before that fail without any contact, those after it go through the
client, and a check tells of the library and its own environment alone. -/
theorem useAll_opens (a : Account) (us : List Use) :
    History a us (a.useAll none us) ∧
      ((a.useAll none us).flatMap fun s => s.1.openings).length ≤ 1 := by
  have h := history_useAll a us
  exact ⟨h, h.openings⟩

end Account

end Mend
