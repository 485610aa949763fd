import FrixelConnect.VoucherLifecycle
import FrixelConnect.Specs.Credentials
import FrixelConnect.Specs.Outcome

/-!
# Withdrawn vouchers stay withdrawn

A revocation and the expiry step first set the status of a voucher and then delete its RADIUS
rows. Until the rows are gone, the operation owes their deletion. In every run in which a retry
meets its voucher as it has read it, and in which the operation that owes a deletion gets through
to it, no withdrawn voucher becomes active, and none has credentials once the operations are over.
-/

namespace FrixelConnect

namespace VoucherWithdrawal

open Interleaving

/-- The voucher was taken back. -/
def Withdrawn (s : VoucherStatus) : Prop := s = .revoked ∨ s = .expired

instance (s : VoucherStatus) : Decidable (Withdrawn s) := inferInstanceAs (Decidable (_ ∨ _))

/-- The voucher has no RADIUS rows. -/
def Bare (d : Store) (w : Voucher) : Prop := ∀ t, d.credentials t w.code w.tenant_id = []

/-- No withdrawn voucher has RADIUS rows. -/
def Clean (d : VoucherStore) : Prop := ∀ w ∈ d.vouchers, Withdrawn w.status → Bare d.toStore w

/-- The columns that no operation changes. -/
def Same (w w' : Voucher) : Prop :=
  w'.id = w.id ∧ w'.code = w.code ∧ w'.tenant_id = w.tenant_id

/-- The vouchers stay, and a withdrawn voucher stays withdrawn. -/
structure Follows (d d' : VoucherStore) : Prop where
  forth : ∀ w ∈ d.vouchers, ∃ w' ∈ d'.vouchers, Same w w'
  back : ∀ w' ∈ d'.vouchers, ∃ w ∈ d.vouchers, Same w w' ∧
    (Withdrawn w.status → Withdrawn w'.status)

theorem Same.trans {w₁ w₂ w₃ : Voucher} (h : Same w₁ w₂) (h' : Same w₂ w₃) : Same w₁ w₃ :=
  ⟨h'.1.trans h.1, h'.2.1.trans h.2.1, h'.2.2.trans h.2.2⟩

theorem Follows.refl (d : VoucherStore) : Follows d d where
  forth w hw := ⟨w, hw, rfl, rfl, rfl⟩
  back w hw := ⟨w, hw, ⟨rfl, rfl, rfl⟩, id⟩

theorem Follows.of_vouchers {d d' : VoucherStore} (h : d'.vouchers = d.vouchers) : Follows d d' where
  forth w hw := ⟨w, by rwa [h], rfl, rfl, rfl⟩
  back w hw := ⟨w, by rwa [h] at hw, ⟨rfl, rfl, rfl⟩, id⟩

theorem Follows.trans {d₁ d₂ d₃ : VoucherStore} (h : Follows d₁ d₂) (h' : Follows d₂ d₃) :
    Follows d₁ d₃ where
  forth w hw := by
    obtain ⟨w₂, hw₂, hsame⟩ := h.forth w hw
    obtain ⟨w₃, hw₃, hsame'⟩ := h'.forth w₂ hw₂
    exact ⟨w₃, hw₃, hsame.trans hsame'⟩
  back w hw := by
    obtain ⟨w₂, hw₂, hsame', hstays'⟩ := h'.back w hw
    obtain ⟨w₁, hw₁, hsame, hstays⟩ := h.back w₂ hw₂
    exact ⟨w₁, hw₁, hsame.trans hsame', fun hw => hstays' (hstays hw)⟩

/-- What an operation must still delete: a table, a code and its tenant. -/
abbrev Due := RadiusTable × String × UUID

def dues (code : String) (tenant_id : UUID) : List Due :=
  [(.radcheck, code, tenant_id), (.radreply, code, tenant_id)]

/-- What an operation owes, and the vouchers that it has read. -/
structure Stage where
  revoked : List Due := []
  expired : List Due := []
  read : List Voucher := []

/-- What the operation owes for the vouchers with the status. -/
def Stage.owes (g : Stage) : VoucherStatus → List Due
  | .revoked => g.revoked
  | .expired => g.expired
  | _ => []

/-- The voucher that an operation has read is still there. -/
def Known (d : VoucherStore) (v : Voucher) : Prop := ∃ w ∈ d.vouchers, Same v w

/-- Every RADIUS row of a withdrawn voucher is owed by an operation. -/
def Covered (d : VoucherStore) (gs : Multiset Stage) : Prop :=
  ∀ w ∈ d.vouchers, Withdrawn w.status → ∀ t, d.credentials t w.code w.tenant_id ≠ [] →
    ∃ g ∈ gs, (t, w.code, w.tenant_id) ∈ g.owes w.status

/-- Rows are inserted for vouchers that are not withdrawn only. -/
def Inserts (d : VoucherStore) : Stmt → Prop
  | .insert_radius _ row => ∀ w ∈ d.vouchers, Withdrawn w.status → w.code = row.username →
      w.tenant_id ≠ row.tenant_id
  | _ => True

/-- A retry meets its voucher as it has read it. -/
def Meets (d : VoucherStore) : VoucherQuery → Prop
  | .base s => Inserts d s
  | .activate_voucher voucher_id tenant_id => ∀ w ∈ d.vouchers,
      w.isOf voucher_id tenant_id = true → w.status = .pending_provision
  | _ => True

/-- The rows that a DELETE is for are not those of a revoked voucher. -/
def Spares (d : VoucherStore) : Stmt → Prop
  | .delete_radius _ code tenant_id => ∀ w ∈ d.vouchers, w.status = .revoked → w.code = code →
      w.tenant_id = tenant_id → Bare d.toStore w
  | _ => True

/-- Nothing is left to do in the loop of the expiry step when the query fails. -/
def mayFail : VoucherQuery → Bool
  | .expire_vouchers => true
  | .remove_active_hotspot_session _ _ => true
  | _ => false

/-- The operation may fail at the query. -/
def Fails (d : VoucherStore) (q : VoucherQuery) : VoucherOperation → Prop
  | .revoke => match q with
    | .base s => Spares d s
    | _ => True
  | .sync => mayFail q = true ∨ ∀ w ∈ d.vouchers, w.status = .expired → Bare d.toStore w
  | _ => True

/-- Runs in which a retry inserts rows for vouchers that are not withdrawn only and activates
vouchers that are pending only, in which a revocation does not fail at a DELETE for rows that are
there, and in which the loop of the expiry step does not fail while an expired voucher has rows. -/
def rules : VoucherRules where
  stmt s c d := match c with
    | .run _ => Meets d s.query
    | .fail _ => Fails d s.query s.caller
  edit d d' := d'.radcheck = d.radcheck ∧ d'.radreply = d.radreply ∧
    d'.vouchers.map (·.id) = d.vouchers.map (·.id) ∧
    ∀ w' ∈ d'.vouchers, ∃ w ∈ d.vouchers, Same w w' ∧
      ∀ s, Withdrawn s → (w.status = s ↔ w'.status = s)

def discipline : Discipline VoucherStmt VoucherStmt.Res Frame Exn VoucherStore Env UUID VoucherCall
    Stage Unit where
  machine := voucherMachine
  rules := rules
  base d := (d.vouchers.map (·.id)).Nodup
  own d _ g := ∀ v ∈ g.read, Known d v
  shared := Covered
  guar := Follows
  guar_refl := Follows.refl
  guar_trans _ _ _ := Follows.trans

variable {d d' : VoucherStore} {g g' : Stage} {l l' : Local VoucherStmt Frame Env} {ks : List UUID}

theorem Known.follows {v : Voucher} (h : Known d v) (hf : Follows d d') : Known d' v := by
  obtain ⟨w, hw, hsame⟩ := h
  obtain ⟨w', hw', hsame'⟩ := hf.forth w hw
  exact ⟨w', hw', hsame.trans hsame'⟩

/-- A step that covers what it leaves: the rows of a withdrawn voucher are owed by the process, or
they were there before, with the same status, and the process did not owe them. -/
theorem moves_of (hids : (d'.vouchers.map (·.id)).Nodup) (hf : Follows d d')
    (hread : ∀ v ∈ g'.read, Known d' v)
    (hcover : ∀ w' ∈ d'.vouchers, Withdrawn w'.status → ∀ t,
      d'.credentials t w'.code w'.tenant_id ≠ [] →
      (t, w'.code, w'.tenant_id) ∈ g'.owes w'.status ∨
        ∃ w ∈ d.vouchers, Same w w' ∧ w.status = w'.status ∧
          d.credentials t w.code w.tenant_id ≠ [] ∧
          ((t, w.code, w.tenant_id) ∈ g.owes w.status →
            (t, w.code, w.tenant_id) ∈ g'.owes w.status)) :
    discipline.Moves ks d d' l g l' g' where
  base := hids
  own := hread
  stable _ g₂ ho _ := fun v hv => Known.follows (ho v hv) hf
  token _ h := by cases h
  shared gs hcov := by
    intro w' hw' hwithdrawn t hrows
    rcases hcover w' hw' hwithdrawn t hrows with howes | ⟨w, hw, hsame, hstatus, hrows', hkeeps⟩
    · exact ⟨g', Multiset.mem_cons_self _ _, howes⟩
    · obtain ⟨g₀, hg₀, howes⟩ := hcov w hw (hstatus ▸ hwithdrawn) t hrows'
      rw [hsame.2.1, hsame.2.2, ← hstatus]
      rcases Multiset.mem_cons.mp hg₀ with rfl | hg₀
      · exact ⟨g', Multiset.mem_cons_self _ _, hkeeps howes⟩
      · exact ⟨g₀, Multiset.mem_cons_of_mem hg₀, howes⟩
  guar := hf

/-- A step without effect on vouchers and rows; what the process no longer owes is gone. -/
theorem moves_drop (hids : (d.vouchers.map (·.id)).Nodup) (hread : ∀ v ∈ g'.read, Known d v)
    (hdrop : ∀ w ∈ d.vouchers, Withdrawn w.status → ∀ t, d.credentials t w.code w.tenant_id ≠ [] →
      (t, w.code, w.tenant_id) ∈ g.owes w.status → (t, w.code, w.tenant_id) ∈ g'.owes w.status) :
    discipline.Moves ks d d l g l' g' :=
  moves_of hids (.refl d) hread fun w hw hwithdrawn t hrows =>
    .inr ⟨w, hw, ⟨rfl, rfl, rfl⟩, rfl, hrows, hdrop w hw hwithdrawn t hrows⟩

section SetStatus

variable {p : Voucher → Bool} {status : VoucherStatus}

theorem ids_setStatus : (d.setStatus p status).vouchers.map (·.id) = d.vouchers.map (·.id) := by
  simp only [VoucherStore.setStatus, updateRows, List.map_map]
  apply List.map_congr_left
  intro w _
  by_cases hp : p w = true <;> simp [hp]

theorem mem_setStatus {w' : Voucher} (h : w' ∈ (d.setStatus p status).vouchers) :
    ∃ w ∈ d.vouchers, Same w w' ∧ (p w = true ∧ w'.status = status ∨ p w = false ∧ w' = w) := by
  obtain ⟨w, hw, rfl⟩ := List.mem_map.mp h
  refine ⟨w, hw, ?_⟩
  by_cases hp : p w = true
  · simp [hp, Same]
  · simp [hp, Same]

theorem follows_setStatus
    (h : ∀ w ∈ d.vouchers, p w = true → Withdrawn w.status → Withdrawn status) :
    Follows d (d.setStatus p status) where
  forth w hw := by
    refine ⟨_, List.mem_map_of_mem hw, ?_⟩
    split <;> exact ⟨rfl, rfl, rfl⟩
  back w' hw' := by
    obtain ⟨w, hw, hsame, ⟨hp, hstatus⟩ | ⟨-, rfl⟩⟩ := mem_setStatus hw'
    · exact ⟨w, hw, hsame, fun hwithdrawn => hstatus ▸ h w hw hp hwithdrawn⟩
    · exact ⟨w', hw, hsame, id⟩

/-- The vouchers that satisfy `p` are withdrawn, and the process owes the deletion of their rows. -/
theorem moves_withdraw (hids : (d.vouchers.map (·.id)).Nodup) (hstatus : Withdrawn status)
    (hread : ∀ v ∈ g'.read, Known d v)
    (hkeeps : ∀ s, g.owes s ⊆ g'.owes s)
    (howes : ∀ w ∈ d.vouchers, p w = true → ∀ t, (t, w.code, w.tenant_id) ∈ g'.owes status) :
    discipline.Moves ks d (d.setStatus p status) l g l' g' := by
  have hf : Follows d (d.setStatus p status) := follows_setStatus fun _ _ _ _ => hstatus
  refine moves_of (by rwa [ids_setStatus]) hf (fun v hv => (hread v hv).follows hf) ?_
  intro w' hw' hwithdrawn t hrows
  obtain ⟨w, hw, ⟨hid, hcode, htenant⟩, ⟨hp, hs⟩ | ⟨hp, rfl⟩⟩ := mem_setStatus hw'
  · rw [hs, hcode, htenant]
    exact .inl (howes w hw hp t)
  · exact .inr ⟨w', hw, ⟨rfl, rfl, rfl⟩, rfl, hrows, fun h => hkeeps _ h⟩

/-- Pending vouchers are activated. -/
theorem moves_activate (hids : (d.vouchers.map (·.id)).Nodup)
    (hread : ∀ v ∈ g.read, Known d v)
    (hpending : ∀ w ∈ d.vouchers, p w = true → w.status = .pending_provision) :
    discipline.Moves ks d (d.setStatus p .active) l g l' g := by
  have hf : Follows d (d.setStatus p .active) := by
    refine follows_setStatus fun w hw hp hwithdrawn => ?_
    rw [hpending w hw hp] at hwithdrawn
    rcases hwithdrawn with h | h <;> cases h
  refine moves_of (by rwa [ids_setStatus]) hf (fun v hv => (hread v hv).follows hf) ?_
  intro w' hw' hwithdrawn t hrows
  obtain ⟨w, hw, -, ⟨-, hs⟩ | ⟨-, rfl⟩⟩ := mem_setStatus hw'
  · rw [hs] at hwithdrawn
    rcases hwithdrawn with h | h <;> cases h
  · exact .inr ⟨w', hw, ⟨rfl, rfl, rfl⟩, rfl, hrows, id⟩

end SetStatus

section Radius

variable {t : RadiusTable} {code : String} {tenant_id : UUID} {row : RadiusRow}

/-- The store after the rows of a name were deleted. -/
def deleted (d : VoucherStore) (t : RadiusTable) (code : String) (tenant_id : UUID) : VoucherStore :=
  { d with toStore := d.setRadius t ((d.radius t).filter fun r =>
      !(r.username == code && r.tenant_id == tenant_id)) }

theorem vouchers_deleted : (deleted d t code tenant_id).vouchers = d.vouchers :=
  d.toStore.vouchers_setRadius _ _

theorem credentials_deleted {t' : RadiusTable} {code' : String} {tenant_id' : UUID}
    (h : (deleted d t code tenant_id).credentials t' code' tenant_id' ≠ []) :
    d.credentials t' code' tenant_id' ≠ [] ∧ (t', code', tenant_id') ≠ (t, code, tenant_id) := by
  by_cases hdue : (t', code', tenant_id') = (t, code, tenant_id)
  · cases hdue
    exact absurd (d.toStore.credentials_delete t code tenant_id) h
  · refine ⟨?_, hdue⟩
    by_cases ht : t = t'
    · subst ht
      have hne : ¬(code' = code ∧ tenant_id' = tenant_id) := by
        rintro ⟨rfl, rfl⟩
        exact hdue rfl
      have hdelete : Touches code tenant_id (.delete_radius t code tenant_id) := .delete t
      rw [← (hdelete.other (v := {}) (a := ()) (d := d.toStore) rfl hne t).1]
      exact h
    · have hsame : (deleted d t code tenant_id).radius t' = d.radius t' :=
        Store.radius_setRadius_ne _ _ ht
      rw [← Store.credentials_congr hsame]
      exact h

/-- Once the rows are deleted, nobody owes their deletion. -/
theorem moves_deleted (hids : (d.vouchers.map (·.id)).Nodup) (hread : ∀ v ∈ g'.read, Known d v)
    (hkeeps : ∀ s, ∀ due ∈ g.owes s, due ≠ (t, code, tenant_id) → due ∈ g'.owes s) :
    discipline.Moves ks d (deleted d t code tenant_id) l g l' g' := by
  have hf : Follows d (deleted d t code tenant_id) := .of_vouchers vouchers_deleted
  refine moves_of (by rwa [vouchers_deleted]) hf (fun v hv => (hread v hv).follows hf) ?_
  intro w hw hwithdrawn t' hrows
  rw [vouchers_deleted] at hw
  obtain ⟨hrows, hne⟩ := credentials_deleted hrows
  exact .inr ⟨w, hw, ⟨rfl, rfl, rfl⟩, rfl, hrows, fun h => hkeeps _ _ h hne⟩

/-- Rows are inserted for a voucher that is not withdrawn. -/
theorem moves_inserted (hids : (d.vouchers.map (·.id)).Nodup) (hread : ∀ v ∈ g.read, Known d v)
    (hrule : ∀ w ∈ d.vouchers, Withdrawn w.status → w.code = row.username →
      w.tenant_id ≠ row.tenant_id) :
    discipline.Moves ks d { d with toStore := d.setRadius t (d.radius t ++ [row]) } l g l' g := by
  have hvouchers : (d.setRadius t (d.radius t ++ [row])).vouchers = d.vouchers :=
    d.toStore.vouchers_setRadius _ _
  have hf : Follows d { d with toStore := d.setRadius t (d.radius t ++ [row]) } :=
    .of_vouchers hvouchers
  refine moves_of (hvouchers ▸ hids) hf (fun v hv => (hread v hv).follows hf) ?_
  intro w hw hwithdrawn t' hrows
  have hw : w ∈ d.vouchers := hvouchers ▸ hw
  refine .inr ⟨w, hw, ⟨rfl, rfl, rfl⟩, rfl, ?_, id⟩
  have hne : ¬ (row.username = w.code ∧ row.tenant_id = w.tenant_id) := fun h =>
    hrule w hw hwithdrawn h.1.symm h.2.symm
  by_cases ht : t = t'
  · subst ht
    rw [Store.credentials, Store.radius_setRadius_self, List.filter_append,
      List.filter_cons_of_neg (by simpa using hne), List.filter_nil, List.append_nil] at hrows
    exact hrows
  · rwa [Store.credentials_congr (Store.radius_setRadius_ne _ _ ht)] at hrows

end Radius

/-- Every run of the program keeps the discipline and ends with `Q`. -/
def Does {α : Type} (Q : Except Exn α → Stage → Prop) (p : VoucherM α) (g : Stage) : Prop :=
  discipline.protocol.wp (fun r l g => l = {} ∧ Q r g) p {} g

section Calls

variable {α β : Type}

theorem does_then {Q : Except Exn β → Stage → Prop} {B : Except Exn α → Stage → Prop}
    {p : VoucherM α} {f : α → VoucherM β} (h : Does B p g)
    (herr : ∀ e g, B (.error e) g → Q (.error e) g)
    (hok : ∀ a g, B (.ok a) g → Does Q (f a) g) : Does Q (p >>= f) g :=
  Discipline.Does.bind h herr hok

/-- A statement fails without effect, or answers. -/
theorem does_query {caller : VoucherOperation} {q : VoucherQuery} {Q : Except Exn q.Res → Stage → Prop}
    (hfail : ∀ d e, (d.vouchers.map (·.id)).Nodup → (∀ v ∈ g.read, Known d v) →
      rules.stmt { caller, query := q } (.fail e) d ∨ (∃ v, q.eval v d = .error e) →
      ∃ g', discipline.Moves [] d d {} g {} g' ∧ Q (.error e) g')
    (hok : ∀ d v a d', (d.vouchers.map (·.id)).Nodup → (∀ v ∈ g.read, Known d v) →
      rules.stmt { caller, query := q } (.run v) d → q.eval v d = .ok (a, d') →
      ∃ g', discipline.Moves [] d d' {} g {} g' ∧ Q (.ok a) g') :
    Does Q (query caller q) g := by
  refine Discipline.wp_exec voucherMachine_restores (.inr rfl) ?_ ?_
  · intro d e hb ho h
    have hraises : rules.stmt { caller, query := q } (.fail e) d ∨ ∃ v, q.eval v d = .error e := by
      rcases h with h | ⟨v, -, hx⟩
      · exact .inl h
      · change VoucherStmt.exec _ v d = _ at hx
        rw [VoucherStmt.exec] at hx
        split at hx
        · cases hx
        · next e' he' =>
          cases hx
          exact .inr ⟨v, he'⟩
    obtain ⟨g', hm, hQ⟩ := hfail d e hb ho hraises
    exact ⟨g', hm, rfl, hQ⟩
  · intro d v a d' hb ho hrule he
    obtain ⟨g', hm, hQ⟩ := hok d v a d' hb ho hrule (VoucherStmt.exec_eq_ok.mp he)
    exact ⟨g', hm, rfl, hQ⟩

/-- An operation that owes nothing may run the statement and owes nothing then. -/
def Harmless (s : VoucherStmt) : Prop :=
  ∀ d l v a d', (d.vouchers.map (·.id)).Nodup → rules.stmt s (.run v) d →
    s.query.eval v d = .ok (a, d') → discipline.Moves [] d d' l {} l {}

theorem does_harmless {p : VoucherM α} (hp : p.Plain Harmless) :
    Does (fun _ g' => g' = {}) p {} := by
  refine Protocol.wp_mono (Protocol.wp_of_plain (hp.mono fun s hs => ?_) rfl) fun _ _ _ h => h
  intro d l others v hi hrule
  rcases voucherMachine_restores s v d with ⟨a, d', hx⟩ | ⟨e, hx⟩
  · change discipline.protocol.Keeps d (voucherMachine.exec s v d).2 _
    rw [hx]
    exact hi.moves (hs d l v a d' hi.base hrule (VoucherStmt.exec_eq_ok.mp hx)) (by simp)
  · change discipline.protocol.Keeps d (voucherMachine.exec s v d).2 _
    rw [hx]
    exact .refl hi

variable {caller : VoucherOperation}

/-- A statement that only reads. -/
def Reads (q : VoucherQuery) : Prop := ∀ v d, ∃ a, q.eval v d = .ok (a, d)

theorem harmless_read {q : VoucherQuery} (hq : Reads q) : Harmless { caller, query := q } := by
  intro d l v a d' hids _ he
  obtain ⟨a', ha⟩ := hq v d
  cases ha.symm.trans he
  exact moves_drop hids (fun _ h => by cases h) fun _ _ _ _ _ h => h

theorem plain_read {q : VoucherQuery} (hq : Reads q) : (query caller q).Plain Harmless :=
  (Prog.plain_exec _).mpr (harmless_read hq)

theorem harmless_delete (t : RadiusTable) (code : String) (tenant_id : UUID) :
    Harmless { caller, query := .base (.delete_radius t code tenant_id) } := by
  intro d l v a d' hids _ he
  cases he
  exact moves_deleted hids (fun _ h => by cases h) fun _ _ h _ => h

theorem harmless_insert (t : RadiusTable) (row : RadiusRow) :
    Harmless { caller, query := .base (.insert_radius t row) } := by
  intro d l v a d' hids hrule he
  obtain ⟨x, hx, rfl⟩ := VoucherQuery.eval_base he
  obtain rfl := Stmt.eval_insert_radius hx
  exact moves_inserted hids (fun _ h => by cases h) hrule

theorem harmless_activate (voucher_id tenant_id : UUID) :
    Harmless { caller, query := .activate_voucher voucher_id tenant_id } := by
  intro d l v a d' hids hrule he
  cases he
  exact moves_activate hids (fun _ h => by cases h) hrule

theorem plain_provision (username password : String) (speed_mbps duration_minutes : ℤ)
    (tenant_id : UUID) (data_quota_mb : Option ℤ) :
    (within caller (_provision_radius_credentials username password speed_mbps duration_minutes
      tenant_id data_quota_mb)).Plain Harmless :=
  Prog.Plain.embed (_provision_radius_credentials_touches
    (fun t => harmless_delete t username tenant_id) fun t row _ _ => harmless_insert t row)

theorem plain_retry (tenant_id voucher_id : UUID) :
    (admin_retry_voucher tenant_id voucher_id).Plain Harmless := by
  refine (plain_read fun _ _ => ⟨_, rfl⟩).bind fun row => ?_
  cases row with
  | none => trivial
  | some row =>
      dsimp only
      split
      · trivial
      refine ((plain_provision _ _ _ _ _ _).tryCatch fun _ => Prog.plain_ret _).bind fun _ => ?_
      refine ((Prog.plain_exec _).mpr (harmless_activate _ _)).bind fun updated_row => ?_
      cases updated_row <;> trivial

theorem plain_poller : provision_retry_poller.Plain Harmless := by
  refine Prog.Plain.tryCatch ?_ fun _ => trivial
  refine (plain_read fun _ _ => ⟨_, rfl⟩).bind fun rows => Prog.Plain.forEach fun r _ => ?_
  refine Prog.Plain.tryCatch ?_ fun _ => trivial
  exact (plain_provision _ _ _ _ _ _).bind fun _ =>
    ((Prog.plain_exec _).mpr (harmless_activate _ _)).bind fun _ => trivial

theorem plain_remove_session (router : Option Router) (code : String) :
    (remove_session caller router code).Plain Harmless :=
  (plain_read fun _ _ => ⟨_, rfl⟩).tryCatch fun _ => trivial

theorem plain_disconnect_revoked (tenant_id : UUID) (voucher : Voucher) :
    (disconnect_revoked tenant_id voucher).Plain Harmless := by
  refine (plain_read fun _ _ => ⟨_, rfl⟩).bind fun active_session => ?_
  cases active_session with
  | none => trivial
  | some active_session =>
      refine (plain_read fun _ _ => ⟨_, rfl⟩).bind fun coa_success => ?_
      split
      · trivial
      split
      · exact plain_remove_session _ _
      · exact (plain_read fun _ _ => ⟨_, rfl⟩).bind fun _ => plain_remove_session _ _

/-- A revocation that has still to delete the rows of its voucher. -/
theorem does_revoke_delete {t : RadiusTable} {code : String} {tenant_id : UUID}
    {s : List Due} (hrest : ∀ due ∈ s, due.2 = (code, tenant_id)) :
    Does (fun r g' => (r.isOk = true → g' = { revoked := s }) ∧ ∀ e, r = .error e → g' = {})
      (query .revoke (.base (.delete_radius t code tenant_id)))
      { revoked := (t, code, tenant_id) :: s } := by
  refine does_query (fun d e hids _ h => ⟨{}, ?_, fun h => (by cases h), fun _ _ => rfl⟩)
    fun d v a d' hids _ _ he => ⟨{ revoked := s }, ?_, fun _ => rfl, fun _ h => by cases h⟩
  · have hbare : ∀ w ∈ d.vouchers, w.status = .revoked → w.code = code →
        w.tenant_id = tenant_id → Bare d.toStore w := by
      rcases h with h | ⟨v, h⟩
      · exact h
      · cases h
    refine moves_drop hids (fun _ h => by cases h) fun w hw hwithdrawn t' hrows howes => ?_
    rcases hwithdrawn with hs | hs <;> rw [hs] at howes
    · have hdue : (w.code, w.tenant_id) = (code, tenant_id) := by
        rcases List.mem_cons.mp howes with h | h
        · exact congrArg Prod.snd h
        · exact hrest _ h
      exact absurd (hbare w hw hs (Prod.mk.inj hdue).1 (Prod.mk.inj hdue).2 t') hrows
    · cases howes
  · cases he
    refine moves_deleted hids (fun _ h => by cases h) fun s due hdue hne => ?_
    cases s with
    | revoked => exact (List.mem_cons.mp hdue).resolve_left hne
    | _ => exact hdue

theorem does_revoke (tenant_id voucher_id : UUID) :
    Does (fun _ g' => g' = {}) (admin_revoke_voucher tenant_id voucher_id) {} := by
  refine does_then (B := fun r g => (∀ e, r = .error e → g = {}) ∧ (r = .ok none → g = {}) ∧
      ∀ v, r = .ok (some v) → v.isOf voucher_id tenant_id = true ∧ g = { read := [v] })
    (does_query ?_ ?_) (fun e g hB => hB.1 e rfl) ?_
  · intro d e hids _ _
    refine ⟨{}, moves_drop hids (fun _ h => by cases h) fun _ _ _ _ _ h => h, fun _ _ => rfl, ?_, ?_⟩
    · exact fun h => by cases h
    · exact fun _ h => by cases h
  · intro d v found d' hids _ _ he
    obtain ⟨hfound, rfl⟩ := Prod.mk.inj (Except.ok.inj he)
    cases found with
    | none =>
        refine ⟨{}, moves_drop hids (fun _ h => by cases h) fun _ _ _ _ _ h => h, ?_, ?_, ?_⟩
        · exact fun _ h => by cases h
        · exact fun _ => rfl
        · exact fun _ h => by cases h
    | some w =>
        obtain ⟨hw, hof⟩ := fetchrow_eq_some hfound
        refine ⟨{ read := [w] }, moves_drop hids (fun v hv => ?_) fun _ _ _ _ _ h => h, ?_, ?_, ?_⟩
        · rw [List.mem_singleton.mp hv]
          exact ⟨w, hw, rfl, rfl, rfl⟩
        · exact fun _ h => by cases h
        · exact fun h => by cases h
        · rintro v ⟨⟩
          exact ⟨hof, rfl⟩
  rintro found g ⟨-, hnone, hsome⟩
  cases found with
  | none => exact ⟨rfl, hnone rfl⟩
  | some voucher =>
      obtain ⟨hof, rfl⟩ := hsome voucher rfl
      rw [Voucher.isOf, Bool.and_eq_true, beq_iff_eq, beq_iff_eq] at hof
      refine does_then (B := fun r g => (∀ e, r = .error e → g = {}) ∧
          (r.isOk = true → g = { revoked := dues voucher.code tenant_id }))
        (does_query ?_ ?_) (fun e g hB => hB.1 e rfl) ?_
      · intro d e hids _ _
        exact ⟨{}, moves_drop hids (fun _ h => by cases h) fun _ _ _ _ _ h => h, fun _ _ => rfl,
          fun h => by cases h⟩
      · intro d v a d' hids hread _ he
        cases he
        refine ⟨{ revoked := dues voucher.code tenant_id }, moves_withdraw hids (.inl rfl)
          (fun _ h => by cases h) (fun s due h => ?_) (fun w hw hp t => ?_),
          fun _ h => (by cases h), fun _ => rfl⟩
        · cases s <;> cases h
        · obtain ⟨w₀, hw₀, hid, hcode, htenant⟩ := hread voucher (List.mem_singleton_self _)
          rw [Voucher.isOf, Bool.and_eq_true, beq_iff_eq, beq_iff_eq] at hp
          obtain rfl := List.inj_on_of_nodup_map hids hw hw₀
            ((hp.1.trans hof.1.symm).trans hid.symm)
          rw [hcode, hp.2]
          cases t <;> simp [Stage.owes, dues]
      rintro updated_row g ⟨-, hg⟩
      obtain rfl := hg rfl
      refine does_then (does_revoke_delete (s := [(.radreply, voucher.code, tenant_id)]) ?_)
        (fun e g hB => hB.2 e rfl) ?_
      · simp
      rintro _ g ⟨hg, -⟩
      obtain rfl := hg rfl
      refine does_then (does_revoke_delete (s := []) (by simp)) (fun e g hB => hB.2 e rfl) ?_
      rintro _ g ⟨hg, -⟩
      obtain rfl := hg rfl
      refine does_then (does_harmless (plain_disconnect_revoked tenant_id voucher))
        (fun _ _ hB => hB) ?_
      rintro _ g rfl
      cases updated_row <;> exact ⟨rfl, rfl⟩

/-! ### The expiry step -/

/-- The loop over the vouchers `read` still has the vouchers `vs` before it. -/
def expiring (vs read : List Voucher) : Stage where
  expired := vs.flatMap fun v => dues v.code v.tenant_id
  read := read

/-- A program of the loop: on an exception nothing is owed any more. -/
def Ends (g : Stage) (r : Except Exn α) (g' : Stage) : Prop :=
  (r.isOk = true → g' = g) ∧ ∀ e, r = .error e → g' = {}

theorem ends_then {g₁ g₂ : Stage} {p : VoucherM α} {f : α → VoucherM β} (h : Does (Ends g₁) p g)
    (hok : ∀ a, Does (Ends g₂) (f a) g₁) : Does (Ends g₂) (p >>= f) g := by
  refine does_then h (fun e g hg => ⟨fun h => (by cases h), fun _ _ => hg.2 e rfl⟩) ?_
  rintro a g' ⟨hg, -⟩
  obtain rfl := hg rfl
  exact hok a

/-- The expiry step fails at a statement only when no expired voucher has rows. -/
def Strict (q : VoucherQuery) : Prop := ∀ d e, rules.stmt { caller := .sync, query := q } (.fail e) d →
  ∀ w ∈ d.vouchers, w.status = .expired → Bare d.toStore w

theorem strict_of {q : VoucherQuery} (h : mayFail q = false) : Strict q := by
  rintro d e (hq | hbare)
  · rw [h] at hq
    cases hq
  · exact hbare

theorem moves_fail (hids : (d.vouchers.map (·.id)).Nodup) (hg : g.revoked = [])
    (hbare : ∀ w ∈ d.vouchers, w.status = .expired → Bare d.toStore w) :
    discipline.Moves ks d d l g l' {} := by
  refine moves_drop hids (fun _ h => by cases h) fun w hw hwithdrawn t hrows howes => ?_
  rcases hwithdrawn with hs | hs
  · rw [hs, Stage.owes, hg] at howes
    cases howes
  · exact absurd (hbare w hw hs t) hrows

theorem does_sync {q : VoucherQuery} {Q : Except Exn q.Res → Stage → Prop} (hg : g.revoked = [])
    (hstrict : Strict q) (hanswers : ∀ v d, ∃ r, q.eval v d = .ok r) (hfail : ∀ e, Q (.error e) {})
    (hok : ∀ d v a d', (d.vouchers.map (·.id)).Nodup → (∀ v ∈ g.read, Known d v) →
      q.eval v d = .ok (a, d') → ∃ g', discipline.Moves [] d d' {} g {} g' ∧ Q (.ok a) g') :
    Does Q (query .sync q) g := by
  refine does_query (fun d e hids _ h => ⟨{}, ?_, hfail e⟩)
    fun d v a d' hids hread _ he => hok d v a d' hids hread he
  rcases h with h | ⟨v, h⟩
  · exact moves_fail hids hg (hstrict d e h)
  · obtain ⟨r, hr⟩ := hanswers v d
    cases hr.symm.trans h

theorem does_sync_read {q : VoucherQuery} (hg : g.revoked = []) (hstrict : Strict q)
    (hq : Reads q) : Does (Ends g) (query .sync q) g := by
  refine does_sync hg hstrict (fun v d => (hq v d).elim fun a h => ⟨(a, d), h⟩) ?_ ?_
  · exact fun e => ⟨fun h => (by cases h), fun _ _ => rfl⟩
  · intro d v a d' hids hread he
    obtain ⟨a', ha⟩ := hq v d
    cases ha.symm.trans he
    exact ⟨g, moves_drop hids hread fun _ _ _ _ _ h => h, fun _ => rfl, fun _ h => by cases h⟩

theorem does_remove_session (router : Option Router) (code : String) :
    Does (Ends g) (remove_session .sync router code) g := by
  apply Protocol.wp_tryCatch.mpr
  refine Protocol.wp_mono (does_query (Q := fun _ g' => g' = g) ?_ ?_) ?_
  · exact fun d e hids hread _ => ⟨g, moves_drop hids hread fun _ _ _ _ _ h => h, rfl⟩
  · intro d v a d' hids hread _ he
    cases he
    exact ⟨g, moves_drop hids hread fun _ _ _ _ _ h => h, rfl⟩
  · rintro r l g' ⟨rfl, rfl⟩
    cases r <;> exact ⟨rfl, fun _ => rfl, fun _ h => by cases h⟩

theorem does_find_router (hg : g.revoked = []) (host : Option String) (router_id : Option UUID) :
    Does (Ends g) (find_router host router_id) g := by
  refine @ends_then _ _ _ g _ _ _ ?_ fun by_host => ?_
  · cases host with
    | none => exact ⟨rfl, fun _ => rfl, fun _ h => by cases h⟩
    | some host => exact does_sync_read hg (strict_of rfl) fun _ _ => ⟨_, rfl⟩
  · cases by_host with
    | some router => exact ⟨rfl, fun _ => rfl, fun _ h => by cases h⟩
    | none =>
        cases router_id with
        | none => exact ⟨rfl, fun _ => rfl, fun _ h => by cases h⟩
        | some router_id => exact does_sync_read hg (strict_of rfl) fun _ _ => ⟨_, rfl⟩

theorem does_disconnect_expired (hg : g.revoked = []) (v : Voucher) :
    Does (Ends g) (disconnect_expired v) g := by
  refine ends_then (does_sync_read hg (strict_of rfl) fun _ _ => ⟨_, rfl⟩) fun active_session => ?_
  cases active_session with
  | some active_session =>
      refine ends_then (does_sync_read hg (strict_of rfl) fun _ _ => ⟨_, rfl⟩) fun coa_success => ?_
      split
      · exact ⟨rfl, fun _ => rfl, fun _ h => by cases h⟩
      · exact ends_then (does_find_router hg _ _) fun router => does_remove_session _ _
  | none =>
      refine ends_then (does_sync_read hg (strict_of rfl) fun _ _ => ⟨_, rfl⟩) fun _ => ?_
      exact ends_then (does_find_router hg _ _) fun router => does_remove_session _ _

/-- A DELETE of the loop. -/
theorem does_delete_expired {t : RadiusTable} {code : String} {tenant_id : UUID} {rest : List Due}
    {read : List Voucher} :
    Does (Ends { expired := rest, read }) (delete_expired t code (some tenant_id))
      { expired := (t, code, tenant_id) :: rest, read } := by
  refine does_sync rfl (strict_of rfl) (fun v d => ⟨_, rfl⟩) ?_ ?_
  · exact fun e => ⟨fun h => (by cases h), fun _ _ => rfl⟩
  · intro d v a d' hids hread he
    cases he
    refine ⟨{ expired := rest, read }, moves_deleted hids hread fun s due hdue hne => ?_,
      fun _ => rfl, fun _ h => by cases h⟩
    cases s with
    | expired => exact (List.mem_cons.mp hdue).resolve_left hne
    | _ => exact hdue

/-- One voucher of the loop. -/
theorem does_withdraw_expired {v : Voucher} {rest read : List Voucher} (hv : v ∈ read) :
    Does (Ends (expiring rest read)) (withdraw_expired v) (expiring (v :: rest) read) := by
  refine does_then (B := fun r g => (∀ T, r = .ok T → T = some v.tenant_id ∧
      g = expiring (v :: rest) read) ∧ ∀ e, r = .error e → g = {})
    (does_sync rfl (strict_of rfl) (fun v d => ⟨_, rfl⟩) ?_ ?_)
    (fun e g hB => ⟨fun h => (by cases h), fun _ _ => hB.2 e rfl⟩) ?_
  · exact fun e => ⟨fun _ h => (by cases h), fun _ _ => rfl⟩
  · intro d env found d' hids hread he
    obtain ⟨hfound, rfl⟩ := Prod.mk.inj (Except.ok.inj he)
    refine ⟨expiring (v :: rest) read, moves_drop hids hread fun _ _ _ _ _ h => h, ?_, ?_⟩
    · rintro _ ⟨⟩
      refine ⟨?_, rfl⟩
      obtain ⟨w, hw, hid, -, htenant⟩ := hread v hv
      obtain ⟨w', hw'⟩ := exists_fetchrow env.pick (p := fun w : Voucher => w.id == v.id) hw
        (beq_iff_eq.mpr hid)
      obtain ⟨hmem, hid'⟩ := fetchrow_eq_some hw'
      obtain rfl := List.inj_on_of_nodup_map hids hmem hw ((beq_iff_eq.mp hid').trans hid.symm)
      rw [← hfound, hw']
      exact congrArg some htenant
    · exact fun _ h => by cases h
  rintro found g ⟨hB, -⟩
  obtain ⟨rfl, rfl⟩ := hB found rfl
  refine ends_then does_delete_expired fun _ => ends_then does_delete_expired fun _ => ?_
  exact does_disconnect_expired rfl v

/-- Nothing is owed. -/
def Settled (g : Stage) : Prop := ∀ s, g.owes s = []

theorem settled_empty : Settled {} := fun s => by cases s <;> rfl

theorem does_withdraw_all {vs read : List Voucher} (hvs : vs ⊆ read) :
    Does (fun _ g => Settled g) (Prog.forEach vs withdraw_expired) (expiring vs read) := by
  induction vs with
  | nil => exact ⟨rfl, fun s => by cases s <;> rfl⟩
  | cons v rest ih =>
      refine does_then (does_withdraw_expired (hvs List.mem_cons_self))
        (fun e g hg => hg.2 e rfl ▸ settled_empty) ?_
      rintro _ g ⟨hg, -⟩
      obtain rfl := hg rfl
      exact ih fun w hw => hvs (List.mem_cons_of_mem _ hw)

theorem does_expire_step : Does (fun _ g => Settled g) expire_step {} := by
  apply Protocol.wp_tryCatch.mpr
  refine Protocol.wp_mono (?_ : Does (fun _ g => Settled g) _ {}) ?_
  · refine does_then (B := fun r g => (∀ vs, r = .ok vs → g = expiring vs vs) ∧
        ∀ e, r = .error e → g = {}) (does_query ?_ ?_) (fun e g hB => hB.2 e rfl ▸ settled_empty) ?_
    · intro d e hids _ _
      exact ⟨{}, moves_drop hids (fun _ h => by cases h) fun _ _ _ _ _ h => h,
        fun _ h => (by cases h), fun _ _ => rfl⟩
    · intro d v vs d' hids _ _ he
      cases he
      refine ⟨expiring _ _, moves_withdraw hids (.inr rfl) ?_ ?_ ?_, fun _ h => by cases h; rfl,
        fun _ h => by cases h⟩
      · intro w hw
        obtain ⟨w₀, hw₀, rfl⟩ := List.mem_map.mp hw
        exact ⟨w₀, (List.mem_filter.mp hw₀).1, rfl, rfl, rfl⟩
      · intro s due h
        cases s <;> cases h
      · intro w hw hp t
        refine List.mem_flatMap.mpr ⟨{ w with status := .expired }, List.mem_map_of_mem
          (List.mem_filter.mpr ⟨hw, hp⟩), ?_⟩
        cases t <;> simp [dues]
    · rintro vs g ⟨hg, -⟩
      obtain rfl := hg vs rfl
      exact does_withdraw_all (List.Subset.refl _)
  · rintro r l g ⟨rfl, hg⟩
    cases r <;> exact ⟨rfl, hg⟩

theorem does_call (w : VoucherCall) : Does (fun _ g => Settled g) w.prog {} := by
  have hdone {α : Type} {p : VoucherM α} (hp : Does (fun _ g => g = {}) p {}) :
      Does (fun _ g => Settled g) (p >>= fun _ => pure ()) {} :=
    does_then hp (fun _ _ h => h ▸ settled_empty) fun _ _ h => ⟨rfl, h ▸ settled_empty⟩
  cases w with
  | revoke tenant_id voucher_id => exact hdone (does_revoke tenant_id voucher_id)
  | retry tenant_id voucher_id => exact hdone (does_harmless (plain_retry tenant_id voucher_id))
  | poller =>
      refine Protocol.wp_mono (does_harmless plain_poller) fun _ _ _ h => ⟨h.1, ?_⟩
      exact h.2 ▸ settled_empty
  | sync => exact does_expire_step

end Calls

/-- Vouchers with different ids, and no row for a withdrawn one. -/
structure Initial (d : VoucherStore) : Prop where
  ids : (d.vouchers.map (·.id)).Nodup
  clean : Clean d

/-- No call runs yet. -/
def idle (d : VoucherStore) : VoucherState := { store := d }

/-- What a finished call owes. -/
def Done (_ : Except Exn Unit) (_ : Local VoucherStmt Frame Env) (g : Stage) : Prop := Settled g

theorem valid_idle (hd : Initial d) : Valid discipline.protocol Done (idle d) := by
  refine Valid.start (.empty hd.ids fun w hw hwithdrawn t hrows => ?_)
  exact absurd (hd.clean w hw hwithdrawn t) hrows

theorem valid_reaches {s s' : VoucherState} (h : Valid discipline.protocol Done s)
    (hs : Reaches voucherSystem rules s s') :
    Valid discipline.protocol Done s' ∧ Follows s.store s'.store := by
  refine h.reaches (Y := voucherSystem) rfl ?_ ?_ hs
  · intro w d d' p ls hi _ hstart
    cases hstart
    refine ⟨{}, hi.joins (fun _ h => by cases h) rfl ?_,
      Protocol.wp_mono (does_call w) fun _ _ _ h => h.2⟩
    intro hs w hw hwithdrawn t hrows
    obtain ⟨g, hg, howes⟩ := hs w hw hwithdrawn t hrows
    exact ⟨g, Multiset.mem_cons_of_mem hg, howes⟩
  · rintro d d' ls hi ⟨hcheck, hreply, hids, hedit⟩
    have hbase : (d.vouchers.map (·.id)).Nodup := hi.base
    have hradius (t : RadiusTable) : d'.radius t = d.radius t := by cases t <;> assumption
    have hf : Follows d d' := by
      refine ⟨fun w hw => ?_, fun w' hw' => ?_⟩
      · have hmem : w.id ∈ d'.vouchers.map (·.id) := hids ▸ List.mem_map_of_mem hw
        obtain ⟨w', hw', hid⟩ := List.mem_map.mp hmem
        obtain ⟨w₀, hw₀, hsame, -⟩ := hedit w' hw'
        obtain rfl := List.inj_on_of_nodup_map hbase hw₀ hw (hsame.1.symm.trans hid)
        exact ⟨w', hw', hsame⟩
      · obtain ⟨w, hw, hsame, hstatus⟩ := hedit w' hw'
        exact ⟨w, hw, hsame, fun h => ((hstatus _ h).mp rfl).symm ▸ h⟩
    have hids' : (d'.vouchers.map (·.id)).Nodup := by rwa [hids]
    refine ⟨⟨hids', fun x hx v hv => (hi.own x hx v hv).follows hf, hi.apart, ?_⟩, hf⟩
    intro w' hw' hwithdrawn t hrows
    obtain ⟨w, hw, hsame, hstatus⟩ := hedit w' hw'
    have hs := (hstatus _ hwithdrawn).mpr rfl
    rw [Store.credentials_congr (hradius t), hsame.2.1, hsame.2.2] at hrows
    obtain ⟨g, hg, howes⟩ := hi.shared w hw (hs ▸ hwithdrawn) t hrows
    refine ⟨g, hg, ?_⟩
    rw [hsame.2.1, hsame.2.2, ← hs]
    exact howes

/-- Once the operations are over, no withdrawn voucher has credentials; and a withdrawn voucher
never becomes active. -/
theorem stays_withdrawn (hd : Initial d) {s : VoucherState}
    (hs : Reaches voucherSystem rules (idle d) s) :
    ((∀ p ∈ s.procs, p.Finished) → Clean s.store) ∧
      ∀ s', Reaches voucherSystem rules s s' → ∀ w ∈ s.store.vouchers, Withdrawn w.status →
        ∀ w' ∈ s'.store.vouchers, w'.id = w.id → Withdrawn w'.status := by
  have hvalid := (valid_reaches (valid_idle hd) hs).1
  constructor
  · intro hfinished w hw hwithdrawn t
    by_contra hrows
    obtain ⟨ann, hann, hinv, hwp⟩ := hvalid
    obtain ⟨g, hg, howes⟩ := hinv.shared w hw hwithdrawn t hrows
    obtain ⟨x, hx, rfl⟩ := Multiset.mem_map.mp hg
    obtain ⟨a, ha, rfl⟩ := List.mem_map.mp (Multiset.mem_coe.mp hx)
    obtain ⟨r, hr⟩ := hfinished a.1 (hann ▸ List.mem_map_of_mem ha)
    have hdone := hwp a ha
    rw [hr] at hdone
    have hnone : a.2.owes w.status = [] := hdone w.status
    rw [hnone] at howes
    cases howes
  · intro s' hs' w hw hwithdrawn w' hw' hid
    have hids : (s.store.vouchers.map (·.id)).Nodup := by
      obtain ⟨ann, -, hinv, -⟩ := hvalid
      exact hinv.base
    obtain ⟨w₀, hw₀, hsame, hstays⟩ := (valid_reaches hvalid hs').2.back w' hw'
    obtain rfl := List.inj_on_of_nodup_map hids hw₀ hw (hsame.1.symm.trans hid)
    exact hstays hwithdrawn

/-- Runs in which the operations run and fail in any way. -/
def unguarded : VoucherRules where
  edit := rules.edit

section Decidable

variable (s : Stmt) (q : VoucherQuery) (o : VoucherOperation) (c : Choice Exn Env) (w : VoucherCall)
  (d d' : VoucherStore)

instance (w : Voucher) : Decidable (Bare d.toStore w) :=
  decidable_of_iff (d.credentials .radcheck w.code w.tenant_id = [] ∧
      d.credentials .radreply w.code w.tenant_id = [])
    ⟨fun h t => by cases t <;> [exact h.1; exact h.2], fun h => ⟨h .radcheck, h .radreply⟩⟩

instance : Decidable (Inserts d s) := by
  rcases s with ⟨⟩ <;>
    first | exact .isTrue trivial | exact inferInstanceAs (Decidable (∀ w ∈ d.vouchers, _))

instance : Decidable (Spares d s) := by
  rcases s with ⟨⟩ <;>
    first | exact .isTrue trivial | exact inferInstanceAs (Decidable (∀ w ∈ d.vouchers, _))

instance : Decidable (Meets d q) := by
  cases q with
  | base s => exact inferInstanceAs (Decidable (Inserts d s))
  | activate_voucher voucher_id tenant_id =>
      exact inferInstanceAs (Decidable (∀ w ∈ d.vouchers, _))
  | _ => exact .isTrue trivial

instance : Decidable (Fails d q o) := by
  cases o with
  | revoke =>
      cases q with
      | base s => exact inferInstanceAs (Decidable (Spares d s))
      | _ => exact .isTrue trivial
  | sync => exact inferInstanceAs (Decidable (_ ∨ _))
  | _ => exact .isTrue trivial

instance (s : VoucherStmt) : Decidable (rules.stmt s c d) :=
  match c with
  | .run _ => inferInstanceAs (Decidable (Meets d s.query))
  | .fail _ => inferInstanceAs (Decidable (Fails d s.query s.caller))

instance : Decidable (rules.spawn w d) := .isTrue trivial

noncomputable instance : Decidable (rules.edit d d') := Classical.propDecidable _

instance (s : VoucherStmt) : Decidable (unguarded.stmt s c d) := .isTrue trivial

instance : Decidable (unguarded.spawn w d) := .isTrue trivial

noncomputable instance : Decidable (unguarded.edit d d') := Classical.propDecidable _

end Decidable

/-- A voucher that waits for its credentials. -/
def waiting : VoucherStore where
  tenants := shop.tenants
  packages := [daily]
  vouchers := [{ id := 4, payment_id := 5, customer_id := 2, package_id := 3, code := "AAAAAAAAAA"
                 status := .pending_provision, created_at := 0, tenant_id := 1 }]

theorem initial_waiting : Initial waiting where
  ids := List.nodup_singleton _
  clean _ _ _ t := by cases t <;> rfl

/-- Every call has ended. -/
def ended (s : VoucherState) : Bool := s.procs.all fun p => match p.prog with
  | .ret _ => true
  | _ => false

theorem finished_of_ended {s : VoucherState} (h : ended s = true) : ∀ p ∈ s.procs, p.Finished := by
  intro p hp
  have hp := List.all_eq_true.mp h p hp
  split at hp
  · next r hr => exact ⟨r, hr⟩
  · cases hp

/-- The answers of `n` statements. -/
def answers (n i : ℕ) : List (Label Exn VoucherStore Env VoucherCall) :=
  List.replicate n (.step i (.run {}))

theorem stays_withdrawn_after_revocation : ∃ s : VoucherState,
    s.store.vouchers.map (·.status) = [.revoked] ∧ Clean s.store := by
  obtain ⟨s, hs, hv⟩ := Reaches.of_moves_state (Y := voucherSystem) (ρ := rules) (idle waiting)
    (.spawn (.retry 1 4) :: answers 7 0 ++ .spawn (.revoke 1 4) :: answers 5 1)
    (fun s => (s.store.vouchers.map (·.status), ended s)) ([.revoked], true) (by decide +kernel)
    (by decide +kernel)
  obtain ⟨hstatus, hended⟩ := Prod.mk.inj hv
  exact ⟨s, hstatus, (stays_withdrawn initial_waiting hs).1 (finished_of_ended hended)⟩

/-- A retry has read the voucher, and then it is revoked. -/
def overtaken : VoucherState :=
  ((idle waiting).run voucherSystem (.spawn (.retry 1 4) :: answers 1 0 ++
    .spawn (.revoke 1 4) :: answers 5 1)).getD (idle waiting)

/-- The retry activates the voucher that was revoked meanwhile. -/
theorem not_stays_withdrawn : ¬ ∀ (d : VoucherStore) (s : VoucherState), Initial d →
    Reaches voucherSystem unguarded (idle d) s →
    ((∀ p ∈ s.procs, p.Finished) → Clean s.store) ∧
      ∀ s', Reaches voucherSystem unguarded s s' → ∀ w ∈ s.store.vouchers, Withdrawn w.status →
        ∀ w' ∈ s'.store.vouchers, w'.id = w.id → Withdrawn w'.status := by
  intro h
  have hrun : Reaches voucherSystem unguarded (idle waiting) overtaken := by
    refine Reaches.of_run (show AllowedRun voucherSystem unguarded (idle waiting) (.spawn (.retry 1 4) :: answers 1 0 ++
        .spawn (.revoke 1 4) :: answers 5 1) by decide +kernel) ?_
    exact (Option.getD_of_ne_none (by decide +kernel) _).symm
  obtain ⟨s', hs', hv⟩ := Reaches.of_moves (Y := voucherSystem) (ρ := unguarded) overtaken
    (answers 6 0) (fun d => d.vouchers.map fun w => (w.id, w.status)) [(4, .active)]
    (by decide +kernel) (by decide +kernel)
  have hrevoked : overtaken.store.vouchers.map (fun w => (w.id, w.status)) = [(4, .revoked)] := by
    decide +kernel
  obtain ⟨w, hw, hid, hstatus⟩ : ∃ w ∈ overtaken.store.vouchers, w.id = 4 ∧ w.status = .revoked := by
    obtain ⟨w, hw, heq⟩ := List.mem_map.mp (hrevoked ▸ List.mem_singleton_self _)
    exact ⟨w, hw, Prod.mk.inj heq⟩
  obtain ⟨w', hw', hid', hstatus'⟩ : ∃ w' ∈ s'.store.vouchers, w'.id = 4 ∧ w'.status = .active := by
    obtain ⟨w', hw', heq⟩ := List.mem_map.mp (hv ▸ List.mem_singleton_self _)
    exact ⟨w', hw', Prod.mk.inj heq⟩
  have hwithdrawn := (h waiting overtaken initial_waiting hrun).2 s' hs' w hw (.inl hstatus) w' hw'
    (hid'.trans hid.symm)
  rw [hstatus'] at hwithdrawn
  rcases hwithdrawn with h | h <;> cases h

end VoucherWithdrawal

end FrixelConnect
