import FrixelConnect.Specs.Settlement
import FrixelConnect.Specs.Initiation

/-!
# What a process knows about payment rows

A row that was found by its checkout id keeps its id, its tenant and its checkout
id. A row that an initiation has inserted is pending and has no checkout id, so
no other process has found it.
-/

namespace FrixelConnect

open Decimals Python Interleaving

/-- A row with the identity of `r` is in the table, and it has a checkout id. -/
def Known (d : Store) (t : PaymentTable) (r : PaymentCore) : Prop :=
  r.mpesa_checkout_id.isSome ∧ ∃ r' ∈ d.cores t, r'.id = r.id ∧ r'.tenant_id = r.tenant_id ∧
    r'.mpesa_checkout_id = r.mpesa_checkout_id

/-- The row was inserted by a process that has not stored its checkout id yet. -/
def Owned (d : Store) (t : PaymentTable) (id tenant : UUID) : Prop :=
  (∃ r ∈ d.cores t, r.id = id) ∧ ∀ r ∈ d.cores t, r.id = id →
    r.status = .pending ∧ r.mpesa_checkout_id = none ∧ r.tenant_id = tenant

/-- The update changes neither the identity of a row nor its checkout id. -/
structure KeepsIdentity (f : PaymentCore → PaymentCore) : Prop where
  id : ∀ r, (f r).id = r.id
  tenant_id : ∀ r, (f r).tenant_id = r.tenant_id
  checkout : ∀ r, (f r).mpesa_checkout_id = r.mpesa_checkout_id

theorem keepsIdentity_confirmed (receipt : Option String) (now : Calendar.Timestamptz) :
    KeepsIdentity (PaymentCore.confirmed receipt now) := ⟨fun _ => rfl, fun _ => rfl, fun _ => rfl⟩

theorem keepsIdentity_failed (reason : Option String) (now : Calendar.Timestamptz) :
    KeepsIdentity (PaymentCore.failed reason now) := ⟨fun _ => rfl, fun _ => rfl, fun _ => rfl⟩

variable {d : Store} {t t' : PaymentTable} {id tenant : UUID} {r : PaymentCore}
  {p : PaymentCore → Bool} {f : PaymentCore → PaymentCore}

theorem Known.not_owned (hk : Known d t r) (ho : Owned d t id tenant) : r.id ≠ id := by
  rintro rfl
  obtain ⟨hsome, r', hr', hid, -, hc⟩ := hk
  obtain ⟨-, hnone, -⟩ := ho.2 r' hr' hid
  rw [← hc, hnone] at hsome
  cases hsome

/-- The rows after an update, each with the row that it comes from. -/
theorem mem_cores_updateCores {r' : PaymentCore} :
    r' ∈ (d.updateCores t p f).cores t' ↔ ∃ r₀ ∈ d.cores t',
      (if t' = t ∧ p r₀ then f r₀ else r₀) = r' := by
  rw [Store.cores_updateCores]
  split
  · next h => simp [mem_updateRows, h]
  · next h => simp [h]

theorem Known.updateCores (h : Known d t' r) (hf : ∀ r₀, r₀.id = r.id → t' = t → p r₀ = true →
    (f r₀).id = r₀.id ∧ (f r₀).tenant_id = r₀.tenant_id ∧
      (f r₀).mpesa_checkout_id = r₀.mpesa_checkout_id) :
    Known (d.updateCores t p f) t' r := by
  obtain ⟨hsome, r', hr', hid, htenant, hc⟩ := h
  refine ⟨hsome, _, mem_cores_updateCores.mpr ⟨r', hr', rfl⟩, ?_⟩
  split
  · next hp =>
      obtain ⟨h₁, h₂, h₃⟩ := hf r' hid hp.1 hp.2
      exact ⟨h₁.trans hid, h₂.trans htenant, h₃.trans hc⟩
  · exact ⟨hid, htenant, hc⟩

theorem Known.keeps (h : Known d t' r) (hf : KeepsIdentity f) :
    Known (d.updateCores t p f) t' r :=
  h.updateCores fun r₀ _ _ _ => ⟨hf.id r₀, hf.tenant_id r₀, hf.checkout r₀⟩

/-- An update of other rows leaves an owned row alone. -/
theorem Owned.updateCores (h : Owned d t' id tenant) (hf : ∀ r, (f r).id = r.id)
    (hp : t' = t → ∀ r, r.id = id → p r = false) :
    Owned (d.updateCores t p f) t' id tenant := by
  have hkeep (r₀ : PaymentCore) (hid : r₀.id = id) : (if t' = t ∧ p r₀ then f r₀ else r₀) = r₀ := by
    rw [if_neg]
    rintro ⟨ht, hpr⟩
    rw [hp ht r₀ hid] at hpr
    cases hpr
  obtain ⟨⟨r, hr, hid⟩, hall⟩ := h
  refine ⟨⟨r, mem_cores_updateCores.mpr ⟨r, hr, hkeep r hid⟩, hid⟩, fun r' hr' hid' => ?_⟩
  obtain ⟨r₀, hr₀, rfl⟩ := mem_cores_updateCores.mp hr'
  have hid₀ : r₀.id = id := by
    split at hid'
    · rwa [hf] at hid'
    · exact hid'
  rw [hkeep r₀ hid₀]
  exact hall r₀ hr₀ hid₀

theorem RowFilter.holds_id {w : RowFilter} (h : w.holds r = true) : r.id = w.id := by
  cases w <;> simp only [holds, Bool.and_eq_true, beq_iff_eq] at h <;> exact h.1

theorem Targets.filter_id {w : RowFilter} (h : Targets w r) : w.id = r.id := by
  rcases h with rfl | rfl <;> rfl

/-- The filter misses every row with another id. -/
theorem RowFilter.holds_eq_false {w : RowFilter} {id : UUID} (h : w.id ≠ id)
    (hr : r.id = id) : w.holds r = false := by
  rw [Bool.eq_false_iff]
  intro hw
  exact h ((RowFilter.holds_id hw).symm.trans hr)

/-- The primary keys of the two payment tables. -/
def UniqueIds (d : Store) : Prop := ∀ t, ((d.cores t).map (·.id)).Nodup

theorem UniqueIds.eq {r' : PaymentCore} (h : UniqueIds d) (hr : r ∈ d.cores t)
    (hr' : r' ∈ d.cores t) (hid : r.id = r'.id) : r = r' :=
  List.inj_on_of_nodup_map (h t) hr hr' hid

theorem UniqueIds.updateCores (h : UniqueIds d) (hf : ∀ r, (f r).id = r.id) :
    UniqueIds (d.updateCores t p f) := by
  intro t'
  have hids : ((d.updateCores t p f).cores t').map (·.id) = (d.cores t').map (·.id) := by
    rw [Store.cores_updateCores]
    split
    · rw [updateRows, List.map_map]
      apply List.map_congr_left
      intro r _
      by_cases hp : p r <;> simp [hp, hf]
    · rfl
  rw [hids]
  exact h t'

/-- A known row is the only row with its id. -/
theorem Known.eq {r' : PaymentCore} (hk : Known d t r) (hu : UniqueIds d) (hr' : r' ∈ d.cores t)
    (hid : r'.id = r.id) : r'.tenant_id = r.tenant_id ∧
      r'.mpesa_checkout_id = r.mpesa_checkout_id := by
  obtain ⟨_, r₀, hr₀, hid₀, htenant, hc⟩ := hk
  obtain rfl := hu.eq hr' hr₀ (hid.trans hid₀.symm)
  exact ⟨htenant, hc⟩

theorem cores_of_same {d' : Store} (h₁ : d'.Same d .payments)
    (h₂ : d'.Same d .platform_payments) (t : PaymentTable) : d'.cores t = d.cores t := by
  cases t
  · exact congrArg (List.map Payment.toPaymentCore) h₁
  · exact h₂

section Insert

/-- Two stores whose payment tables differ by appended rows with fresh ids. -/
structure Extends (d d' : Store) : Prop where
  mem : ∀ {t r}, r ∈ d.cores t → r ∈ d'.cores t
  fresh : ∀ {t r}, r ∈ d'.cores t → r ∈ d.cores t ∨ ∀ r₀ ∈ d.cores t, r₀.id ≠ r.id
  unique : UniqueIds d → UniqueIds d'

theorem Extends.of_cores {d' : Store} (h : ∀ t, d'.cores t = d.cores t) : Extends d d' :=
  ⟨fun hr => (h _).symm ▸ hr, fun hr => .inl (h _ ▸ hr), fun hu t => (h t).symm ▸ hu t⟩

theorem Extends.trans {d₁ d₂ : Store} (h : Extends d d₁) (h' : Extends d₁ d₂) : Extends d d₂ where
  mem hr := h'.mem (h.mem hr)
  fresh hr := (h'.fresh hr).elim h.fresh fun hnew => .inr fun r₀ hr₀ => hnew r₀ (h.mem hr₀)
  unique hu := h'.unique (h.unique hu)

theorem Extends.insert_payment {row : Payment} (h : ∀ r ∈ d.payments, r.id ≠ row.id) :
    Extends d { d with payments := d.payments ++ [row] } := by
  constructor
  · intro t r hr
    cases t with
    | payments => simp only [Store.cores, List.map_append, List.mem_append] at hr ⊢; exact .inl hr
    | platform_payments => exact hr
  · intro t r hr
    cases t with
    | payments =>
        simp only [Store.cores, List.map_append, List.mem_append, List.map_cons, List.map_nil,
          List.mem_singleton] at hr
        refine hr.imp_right ?_
        rintro rfl r₀ hr₀
        obtain ⟨r₁, hr₁, rfl⟩ := List.mem_map.mp hr₀
        exact h r₁ hr₁
    | platform_payments => exact .inl hr
  · intro hu t
    cases t with
    | payments =>
        have hrows : ({ d with payments := d.payments ++ [row] } : Store).cores .payments =
            d.cores .payments ++ [row.toPaymentCore] := by simp [Store.cores]
        rw [hrows]
        refine nodup_map_concat _ (hu .payments) fun r hr => ?_
        obtain ⟨r₁, hr₁, rfl⟩ := List.mem_map.mp hr
        exact h r₁ hr₁
    | platform_payments => exact hu .platform_payments

theorem Extends.insert_platform {row : PaymentCore}
    (h : ∀ r ∈ d.platform_payments, r.id ≠ row.id) :
    Extends d { d with platform_payments := d.platform_payments ++ [row] } := by
  constructor
  · intro t r hr
    cases t with
    | payments => exact hr
    | platform_payments => exact List.mem_append_left _ hr
  · intro t r hr
    cases t with
    | payments => exact .inl hr
    | platform_payments =>
        rcases List.mem_append.mp hr with hr | hr
        · exact .inl hr
        · rw [List.mem_singleton.mp hr]
          exact .inr h
  · intro hu t
    cases t with
    | payments => exact hu .payments
    | platform_payments => exact nodup_map_concat _ (hu .platform_payments) h

variable {d' : Store}

theorem Known.extends (h : Known d t r) (he : Extends d d') : Known d' t r := by
  obtain ⟨hsome, r', hr', hrest⟩ := h
  exact ⟨hsome, r', he.mem hr', hrest⟩

theorem Owned.extends (h : Owned d t id tenant) (he : Extends d d') : Owned d' t id tenant := by
  obtain ⟨⟨r, hr, hid⟩, hall⟩ := h
  refine ⟨⟨r, he.mem hr, hid⟩, fun r' hr' hid' => ?_⟩
  rcases he.fresh hr' with hold | hnew
  · exact hall r' hold hid'
  · exact absurd (hid.trans hid'.symm) (hnew r hr)

end Insert

/-- The ghost value of a process that works on payment rows: the rows that it has looked up
and the payments that it knows to be confirmed, or the row that it owns. -/
inductive Knowledge where
  | know (rows : LookedUp) (won : List UUID)
  | owner (t : PaymentTable) (id tenant : UUID) (push : Option String)

namespace Knowledge

/-- What the ghost value says about the payment tables. -/
def Fact (d : Store) : Knowledge → Prop
  | .know rows _ => ∀ x ∈ rows, Known d x.1 x.2
  | .owner t id tenant _ => Owned d t id tenant

/-- A row that is not pushed yet belongs to one process. -/
def token : Knowledge → Option (PaymentTable × UUID)
  | .know _ _ => none
  | .owner t id _ _ => some (t, id)

/-- Nothing is known. -/
abbrev nothing : Knowledge := .know [] []

/-- The ghost value of a process that settles payments. -/
abbrev settling (rows : LookedUp) (won : Option PaymentCore) : Knowledge :=
  .know rows (won.toList.map (·.id))

variable {g : Knowledge} {d' : Store}

theorem Fact.no_rows (d : Store) (won : List UUID) : Fact d (.know [] won) := by simp [Fact]

theorem Fact.extends (h : Fact d g) (he : Extends d d') : Fact d' g := by
  cases g with
  | know rows won => exact fun x hx => (h x hx).extends he
  | owner t id tenant push => exact Owned.extends h he

/-- Settling a known row keeps what every process knows. -/
theorem Fact.settle {w : RowFilter} (h : Fact d g) (hk : Known d t r) (hw : w.id = r.id)
    (hf : KeepsIdentity f) : Fact (d.updateCores t w.holds f) g := by
  cases g with
  | know rows won => exact fun x hx => (h x hx).keeps hf
  | owner t' id tenant push =>
      refine Owned.updateCores h hf.id fun ht r' hid => ?_
      subst ht
      exact RowFilter.holds_eq_false (hw ▸ hk.not_owned h) hid

/-- Updating an owned row keeps what every other process knows. -/
theorem Fact.update {w : Option UUID} (h : Fact d g) (ho : Owned d t id tenant)
    (hg : token g ≠ some (t, id)) (hf : ∀ r, (f r).id = r.id) :
    Fact (d.updateCores t (RowFilter.row id w).holds f) g := by
  cases g with
  | know rows won =>
      intro x hx
      refine (h x hx).updateCores fun r₀ hid ht hp => ?_
      subst ht
      exact absurd (hid.symm.trans (RowFilter.holds_id hp)) ((h x hx).not_owned ho)
  | owner t' id' tenant' push =>
      refine Owned.updateCores h hf fun ht r' hid => ?_
      subst ht
      refine RowFilter.holds_eq_false ?_ hid
      rintro rfl
      exact hg rfl

end Knowledge

/-- The filter of the owner of a row finds the row. -/
theorem Owned.holds {w : Option UUID} (ho : Owned d t id tenant) (hw : w = none ∨ w = some tenant)
    (hr : r ∈ d.cores t) (hid : r.id = id) : (RowFilter.row id w).holds r = true := by
  obtain ⟨-, -, htenant⟩ := ho.2 r hr hid
  rcases hw with rfl | rfl <;> simp [RowFilter.holds, hid, htenant]

/-- Storing a checkout id returns the row. -/
theorem Owned.store_isSome {w : Option UUID} {v : Env} {checkout_id : Json}
    {row : Option PaymentCore} {d' : Store} (ho : Owned d t id tenant)
    (hw : w = none ∨ w = some tenant)
    (he : (Stmt.store_checkout t checkout_id (.row id w)).eval v d = .ok (row, d')) :
    row.isSome := by
  obtain ⟨c, -, rfl, rfl⟩ := Stmt.eval_store_checkout he
  rw [Option.isSome_iff_ne_none, ne_eq, fetchrow_eq_none]
  push Not
  obtain ⟨r, hr, hid⟩ := ho.1
  refine ⟨_, mem_cores_updateCores.mpr ⟨r, hr, rfl⟩, ?_⟩
  have hholds := ho.holds hw hr hid
  rw [if_pos ⟨rfl, hholds⟩]
  simpa [RowFilter.holds, PaymentCore.pushed] using hholds

end FrixelConnect
