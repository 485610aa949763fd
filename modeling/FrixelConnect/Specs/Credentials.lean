import FrixelConnect.Effects
import FrixelConnect.Specs.Footprint
import FrixelConnect.Specs.Alone

/-!
# Credentials and the vouchers they belong to

The RADIUS rows of a name in a tenant belong to the voucher with that code. The
rules below follow one call that runs alone, with the codes that it will draw.
-/

namespace FrixelConnect

open Interleaving Contract

/-- The RADIUS rows of one name in a tenant. -/
def Store.credentials (d : Store) (t : RadiusTable) (username : String) (tenant_id : UUID) :
    List RadiusRow :=
  (d.radius t).filter fun r => r.username == username && r.tenant_id == tenant_id

/-- A voucher of the tenant has the code. -/
def Held (d : Store) (code : String) (tenant_id : UUID) : Prop :=
  ∃ w ∈ d.vouchers, w.code = code ∧ w.tenant_id = tenant_id

instance (d : Store) (code : String) (tenant_id : UUID) : Decidable (Held d code tenant_id) :=
  inferInstanceAs (Decidable (∃ w ∈ _, _))

/-- The payment and its package are in the tenant. -/
def Found (d : Store) (payment_id tenant_id : UUID) : Prop :=
  ∃ p ∈ d.payments, p.id = payment_id ∧ p.tenant_id = tenant_id ∧
    ∃ pkg ∈ d.packages, pkg.id = p.package_id ∧ pkg.tenant_id = tenant_id

instance (d : Store) (payment_id tenant_id : UUID) : Decidable (Found d payment_id tenant_id) :=
  inferInstanceAs (Decidable (∃ p ∈ _, _))

/-- The statement writes the RADIUS rows of this name in the tenant only. -/
inductive Touches (username : String) (tenant_id : UUID) : Stmt → Prop
  | delete (t : RadiusTable) : Touches username tenant_id (.delete_radius t username tenant_id)
  | insert (t : RadiusTable) (row : RadiusRow) (hname : row.username = username)
      (htenant : row.tenant_id = tenant_id) : Touches username tenant_id (.insert_radius t row)

variable {d d' : Store} {s : Stmt} {v : Env} {a : s.Res} {username : String} {tenant_id : UUID}

@[simp] theorem Store.radius_setRadius_self (d : Store) (t : RadiusTable)
    (rows : List RadiusRow) : (d.setRadius t rows).radius t = rows := by
  cases t <;> rfl

theorem Store.radius_setRadius_ne (d : Store) {t t' : RadiusTable} (rows : List RadiusRow)
    (h : t ≠ t') : (d.setRadius t rows).radius t' = d.radius t' := by
  cases t <;> cases t' <;> first | rfl | exact absurd rfl h

@[simp] theorem Store.vouchers_setRadius (d : Store) (t : RadiusTable) (rows : List RadiusRow) :
    (d.setRadius t rows).vouchers = d.vouchers := by
  cases t <;> rfl

/-- The credentials depend on their table only. -/
theorem Store.credentials_congr {t : RadiusTable} (h : d'.radius t = d.radius t)
    (username : String) (tenant_id : UUID) :
    d'.credentials t username tenant_id = d.credentials t username tenant_id := by
  rw [Store.credentials, h, Store.credentials]

/-- Deleting the credentials of a name leaves none. -/
theorem Store.credentials_delete (d : Store) (t : RadiusTable) (username : String)
    (tenant_id : UUID) : (d.setRadius t ((d.radius t).filter fun r =>
      !(r.username == username && r.tenant_id == tenant_id))).credentials t username
        tenant_id = [] := by
  simp [Store.credentials, List.filter_filter]

theorem Store.mem_credentials_insert (d : Store) (t : RadiusTable) (row : RadiusRow) :
    row ∈ (d.setRadius t (d.radius t ++ [row])).credentials t row.username row.tenant_id := by
  simp [Store.credentials]

/-- A row of an existing tenant can be inserted. -/
theorem eval_insert_radius_of {row : RadiusRow} (t : RadiusTable) (v : Env)
    (h : d.hasTenant row.tenant_id) : (Stmt.insert_radius t row).eval v d =
      .ok ((), d.setRadius t (d.radius t ++ [row])) := by
  simp only [Stmt.eval, check, h, if_true]
  rfl

/-- The rows of every other name, and the vouchers, are as they were. -/
theorem Touches.other (hs : Touches username tenant_id s) (he : s.eval v d = .ok (a, d'))
    {username' : String} {tenant_id' : UUID}
    (hne : ¬ (username' = username ∧ tenant_id' = tenant_id)) (t : RadiusTable) :
    d'.credentials t username' tenant_id' = d.credentials t username' tenant_id' ∧
      d'.vouchers = d.vouchers := by
  cases hs with
  | delete t' =>
      cases he
      refine ⟨?_, d.vouchers_setRadius _ _⟩
      by_cases ht : t' = t
      · subst ht
        rw [Store.credentials, Store.credentials, Store.radius_setRadius_self, List.filter_filter]
        refine List.filter_congr fun r _ => ?_
        grind
      · exact Store.credentials_congr (Store.radius_setRadius_ne _ _ ht) _ _
  | insert t' row hname htenant =>
      obtain rfl := Stmt.eval_insert_radius he
      refine ⟨?_, d.vouchers_setRadius _ _⟩
      by_cases ht : t' = t
      · subst ht
        rw [Store.credentials, Store.radius_setRadius_self, List.filter_append,
          List.filter_cons_of_neg (by grind), List.filter_nil, List.append_nil, Store.credentials]
      · exact Store.credentials_congr (Store.radius_setRadius_ne _ _ ht) _ _

/-- A look-up finds a row when there is one. -/
theorem exists_fetchrow {α : Type} (pick : ℕ) {p : α → Bool} {rows : List α} {r : α}
    (hr : r ∈ rows) (hp : p r = true) : ∃ r', fetchrow pick p rows = some r' :=
  Option.ne_none_iff_exists'.mp fun hnone => fetchrow_eq_none.mp hnone r hr hp

theorem eval_payment_of_found {payment_id : UUID} (h : Found d payment_id tenant_id) (v : Env) :
    ∃ p, (Stmt.select_payment payment_id tenant_id).eval v d = .ok (some p, d) := by
  obtain ⟨p, hp, hid, htenant, -⟩ := h
  obtain ⟨r, hr⟩ := exists_fetchrow v.pick (p := fun r : Payment =>
    r.id == payment_id && r.tenant_id == tenant_id) hp (by simp [hid, htenant])
  exact ⟨r, congrArg (fun r => Except.ok (r, d)) hr⟩

/-- The look-up finds a payment with its package when there is one. -/
theorem eval_of_found {payment_id : UUID} (h : Found d payment_id tenant_id) (v : Env) :
    ∃ p pkg, (Stmt.select_payment_package payment_id tenant_id).eval v d =
      .ok (some (p, pkg), d) := by
  obtain ⟨p, hp, hid, htenant, pkg, hpkg, hpackage, hpkgtenant⟩ := h
  have hjoined : (p, pkg) ∈ d.payments.flatMap fun p => (d.packages.filter fun pkg =>
      pkg.id == p.package_id && pkg.tenant_id == tenant_id).map fun pkg => (p, pkg) := by
    simp only [List.mem_flatMap, List.mem_map, List.mem_filter]
    exact ⟨p, hp, pkg, ⟨hpkg, by simp [hpackage, hpkgtenant]⟩, rfl⟩
  obtain ⟨⟨p', pkg'⟩, hr⟩ := exists_fetchrow v.pick (p := fun r : Payment × Package =>
    r.1.id == payment_id && r.1.tenant_id == tenant_id) hjoined (by simp [hid, htenant])
  exact ⟨p', pkg', congrArg (fun r => Except.ok (r, d)) hr⟩

/-- The code that a statement draws. -/
def drawn (s : Stmt) (c : Choice Exn Env) : Option String :=
  match s with
  | .generate_voucher_code length =>
      match c with
      | .run v => some (codeOfDraws v.draw length)
      | .fail _ => none
  | _ => none

/-- The codes that are still to be drawn. -/
def drawing : Journal Stmt Exn Env (List String) := fun codes s c =>
  match drawn s c with
  | none => some codes
  | some code => if codes.head? = some code then some codes.tail else none

theorem drawing_draw (v : Env) (length : ℕ) (codes : List String) :
    drawing (codeOfDraws v.draw length :: codes) (.generate_voucher_code length) (.run v) =
      some codes := by
  simp [drawing, drawn]

theorem drawing_of_none {s : Stmt} {codes : List String} (h : ∀ c, drawn s c = none)
    (c : Choice Exn Env) (codes' : List String) (hc : drawing codes s c = some codes') :
    codes' = codes := by
  rw [drawing, h c] at hc
  exact (Option.some.inj hc).symm

end FrixelConnect
