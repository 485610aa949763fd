import FrixelConnect.System
import FrixelConnect.Interleaving.Solo

/-!
# Calls that run alone

The rules of solo runs for the statements of the application, outside any
transaction.
-/

namespace FrixelConnect

open Python Interleaving

instance : Nonempty Env := ⟨{}⟩

/-- A key of a dict. -/
theorem get_bind {α : Type} {x y : Json} {key : String} {default : Json} {f : Json → M α}
    (h : x.get key default = .ok y) : (get x key default >>= f) = f y := by
  rw [get, h]
  rfl

namespace Alone

/-- All choices of the environment are considered. -/
def anything : Journal Stmt Exn Env Unit := fun _ _ _ => some ()

variable {α β J : Type} {note : Journal Stmt Exn Env J} {I : J → Store → Prop} {s : Stmt} {v : Env}
  {d d' : Store} {a : s.Res} {j j' : J} {l : RunLocal}

/-- A statement that does not enter the journal. -/
theorem always_stmt {Q : Except Exn s.Res → J → Store → RunLocal → Prop} (hl : l.txn = .none)
    (hnote : ∀ c j', note j s c = some j' → j' = j) (hi : I j d) (hfail : ∀ e, Q (.error e) j d l)
    (hok : ∀ v a d', s.eval v d = .ok (a, d') → I j d' ∧ Q (.ok a) j d' l) :
    Solo.Always machine note I Q (exec s) j d l := by
  refine (Solo.always_exec (.inr hl)).mpr ⟨hi, fun c j' hc => ?_⟩
  obtain rfl := hnote c j' hc
  cases c with
  | fail e => exact ⟨hi, hfail e⟩
  | run v =>
      change I _ (s.exec v d).2 ∧ Q (s.exec v d).1 _ (s.exec v d).2 l
      rcases s.exec_cases v d with ⟨a, d', he, hx⟩ | ⟨e, -, hx⟩
      · rw [hx]
        exact hok v a d' he
      · rw [hx]
        exact ⟨hi, hfail e⟩

/-- A statement that does not enter the journal, and what follows its answer. -/
theorem always_stmt_bind {f : s.Res → M β} {Q : Except Exn β → J → Store → RunLocal → Prop}
    (hl : l.txn = .none) (hnote : ∀ c j', note j s c = some j' → j' = j) (hi : I j d)
    (hfail : ∀ e, Q (.error e) j d l)
    (hok : ∀ v a d', s.eval v d = .ok (a, d') → Solo.Always machine note I Q (f a) j d' l) :
    Solo.Always machine note I Q (exec s >>= f) j d l := by
  refine Solo.always_exec_bind (.inr hl) hi fun c j' hc => ?_
  obtain rfl := hnote c j' hc
  cases c with
  | fail e => exact ⟨hi, hfail e⟩
  | run v =>
      rcases s.exec_cases v d with ⟨a, d', he, hx⟩ | ⟨e, -, hx⟩
      · have hstep : machine.direct s (.run v) d = (.ok a, d') := hx
        rw [hstep]
        exact hok v a d' he
      · have hstep : machine.direct s (.run v) d = (.error e, d) := hx
        rw [hstep]
        exact ⟨hi, hfail e⟩

/-- A program whose statements keep a property of the store. -/
theorem always_plain {p : M α} {φ : Stmt → Prop} {G : Store → Prop} (hp : p.Plain φ)
    (hl : l.txn = .none) (hd : G d) (hI : ∀ j d, G d → I j d)
    (hkeep : ∀ s, φ s → ∀ v d a d', G d → s.eval v d = .ok (a, d') → G d') :
    Solo.Always machine note I (fun _ _ d' l' => G d' ∧ l' = l) p j d l := by
  have h : Solo.Always machine note (fun _ d => G d) (fun _ _ _ l' => l' = l) p j d l := by
    refine Solo.always_of_plain hp hl hd fun s hs c j j' d hd _ => ?_
    cases c with
    | fail e => exact hd
    | run v =>
        change G (s.exec v d).2
        rcases s.exec_cases v d with ⟨a, d', he, hx⟩ | ⟨e, -, hx⟩
        · rw [hx]
          exact hkeep s hs v d a d' hd he
        · rwa [hx]
  exact (h.weaken hI).mono fun _ _ _ _ _ hr => hr

/-- A statement that goes through: its answer is in `Q`. -/
theorem last {Q : Except Exn s.Res → J → Store → RunLocal → Prop}
    (h : Solo.Always machine note I Q (exec s) j d l) (hl : l.txn = .none)
    (hc : note j s (.run v) = some j') (he : s.eval v d = .ok (a, d')) : Q (.ok a) j' d' l := by
  have h := ((Solo.always_exec (.inr hl)).mp h).2 (.run v) j' hc
  have hstep : machine.direct s (.run v) d = (.ok a, d') := Stmt.exec_eq_ok.mpr he
  rw [hstep] at h
  exact h.2

/-- A statement that goes through: the program after it. -/
theorem run {f : s.Res → M β} {Q : Except Exn β → J → Store → RunLocal → Prop}
    (h : Solo.Always machine note I Q (exec s >>= f) j d l) (hl : l.txn = .none)
    (hc : note j s (.run v) = some j') (he : s.eval v d = .ok (a, d')) :
    Solo.Always machine note I Q (f a) j' d' l :=
  last (Solo.always_bind.mp h) hl hc he

/-- A statement that fails ends the program. -/
theorem fail {f : s.Res → M β} {Q : Except Exn β → J → Store → RunLocal → Prop} {e : Exn}
    (h : Solo.Always machine note I Q (exec s >>= f) j d l) (hl : l.txn = .none)
    (hc : note j s (.fail e) = some j') : Q (.error e) j' d l :=
  (((Solo.always_exec (.inr hl)).mp (Solo.always_bind.mp h)).2 (.fail e) j' hc).2.2

end Alone

end FrixelConnect
