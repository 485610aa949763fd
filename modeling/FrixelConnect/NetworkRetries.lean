import FrixelConnect.HotspotServer

/-!
# Retries of requests to a router

The client repeats a request whose attempt was lost, and cannot know whether the router had seen
it. A run behind such a network is compared with the run without any network error.

## Main results

`retries_transparent_iff`: the two runs agree exactly where no attempt of an add or of a delete
is lost after the router has answered it.

## Implementation notes

The pattern of losses has a list for each request of the run, of the attempts that are lost
before the one that is not. A router acts as on tables here.
-/

namespace FrixelConnect.NetworkRetries

open Interleaving Python Keyed RouterOs RestClient

/-- A second time, the request adds a second item, or finds none to delete. -/
def addsOrDeletes : Request → Bool
  | .add .. => true
  | .delete .. => true
  | _ => false

/-- The menus that a request is about. -/
def menus : Request → List Menu
  | .get m _ => [m]
  | .add m _ => [m]
  | .patch m .. => [m]
  | .delete m _ => [m]
  | .set .. => []
  | .fetch .. => []

variable (self : RestClient) (R : Device) {α β : Type}

/-- The requests of a run without any network error. -/
def requests : ClientM α → RouterConfig → List Request
  | .ret _, _ => []
  | .ctl _ k, c => requests (k (.ok ())) c
  | .stmt r k, c => r :: requests (k (self.deliver R r c).1) (self.deliver R r c).2

/-- No attempt of an add or of a delete is lost after the router has answered it. -/
def Harmless (p : ClientM α) (c : RouterConfig) (losses : List (List Loss)) : Prop :=
  ∀ x ∈ (requests self R p c).zip losses, addsOrDeletes x.1 = true → .after ∉ x.2

/-- Both runs succeed, or both end in an error of the router, or in the same other exception. -/
def SameOutcome : Except ClientError α → Except ClientError α → Prop
  | .ok _, .ok _ => True
  | .error e, .error e' => e = e' ∨ e.isMikroTik = true ∧ e'.isMikroTik = true
  | _, _ => False

/-- The run behind the network ends as the one without any network error. -/
def Transparent (p : ClientM α) (c : RouterConfig) (losses : List (List Loss)) : Prop :=
  SameOutcome (self.run R p c).1 (self.runLink R p ⟨c, losses⟩).1 ∧
    (self.run R p c).2.Same (self.runLink R p ⟨c, losses⟩).2.config

theorem SameOutcome.refl (r : Except ClientError α) : SameOutcome r r := by
  cases r with
  | ok a => trivial
  | error e => exact .inl rfl

section Requests

variable {self R} {c : RouterConfig} {r : Request}

/-- The configuration after the router has answered the request some times. -/
def applied (R : Device) (r : Request) (n : ℕ) (c : RouterConfig) : RouterConfig :=
  (fun c => (R.answer c r).2)^[n] c

theorem attempts_eq {ls : List Loss} {rest : List (List Loss)} {n : ℕ} (h : ls.length < n)
    (c : RouterConfig) : self.attempts R r n ⟨c, ls :: rest⟩ =
      ((self.deliver R r (applied R r (ls.count .after) c)).1,
        ⟨(self.deliver R r (applied R r (ls.count .after) c)).2, rest⟩) := by
  induction ls generalizing n c with
  | nil =>
      obtain ⟨n, rfl⟩ := Nat.exists_eq_succ_of_ne_zero (Nat.ne_of_gt h)
      rw [attempts]
      simp only [attempt, deliver, applied, List.count_nil, Function.iterate_zero_apply]
      by_cases h401 : (R.answer c r).1.status_code = 401
      · simp [h401]
      · simp [h401]
  | cons loss ls ih =>
      obtain ⟨n, rfl⟩ := Nat.exists_eq_succ_of_ne_zero (Nat.ne_zero_of_lt h)
      have hlt : ls.length < n := Nat.lt_of_succ_lt_succ h
      rw [attempts]
      cases loss with
      | before =>
          have hcount : (Loss.before :: ls).count .after = ls.count .after :=
            List.count_cons_of_ne (by decide)
          rw [hcount]
          exact ih hlt c
      | after =>
          rw [List.count_cons_self, applied, Function.iterate_succ_apply]
          exact ih hlt _

theorem answer_eq (hR : R.AsTables) : R.answer c r = R.carryOut c r := by
  rw [Device.answer, hR]

/-- A request that neither adds nor deletes can be repeated. -/
theorem carryOut_twice (h : addsOrDeletes r = false) :
    R.carryOut (R.carryOut c r).2 r = R.carryOut c r := by
  cases r with
  | get m params => rfl
  | add m json => cases h
  | patch m id json =>
      by_cases hid : id ∈ (c.tables m).ids
      · have hfirst : R.carryOut c (.patch m id json) =
            (⟨200, .other⟩, c.setTable m ((c.tables m).update id json)) := if_pos hid
        have hid' : id ∈ ((c.setTable m ((c.tables m).update id json)).tables m).ids := by
          rw [RouterConfig.tables_setTable, KeyTable.ids_update]
          exact hid
        rw [hfirst, Device.carryOut, if_pos hid', RouterConfig.tables_setTable,
          KeyTable.update_update]
        simp [RouterConfig.setTable]
      · have hfirst : R.carryOut c (.patch m id json) = (missing, c) := if_neg hid
        rw [hfirst]
        exact hfirst
  | delete m id => cases h
  | set s json => simp [Device.carryOut, RouterConfig.patchSetting]
  | fetch url dst_path mode => simp [Device.carryOut, RouterConfig.saveFile]

theorem answer_applied (hR : R.AsTables) (h : addsOrDeletes r = false) (n : ℕ) :
    R.answer (applied R r n c) r = R.answer c r := by
  induction n with
  | zero => rfl
  | succ n ih =>
      have hstep : applied R r (n + 1) c = (R.answer (applied R r n c) r).2 :=
        Function.iterate_succ_apply' ..
      rw [hstep, answer_eq hR, answer_eq hR, carryOut_twice h, ← answer_eq hR, ih]

end Requests

/-- The menus that a request adds to. -/
def added : Request → List Menu
  | .add m _ => [m]
  | _ => []

/-- A menu is not used again once it was added to, and nothing follows a delete that fails. -/
def Orderly : ClientM α → Prop
  | .ret _ => True
  | .ctl .. => False
  | .stmt r k =>
      (∀ m ∈ added r, ∀ x, (k x).All fun r' => m ∉ menus r') ∧
      (∀ m id, r = .delete m id → ∃ e : ClientError, e.isMikroTik = true ∧
        k (.ok missing) = .ret (.error e)) ∧
      ∀ x, Orderly (k x)

/-- An orderly program that adds to the menus `A` and uses the menus `M`. -/
structure Uses (A M : List Menu) (p : ClientM α) : Prop where
  orderly : Orderly p
  added : p.All fun r => added r ⊆ A
  menus : p.All fun r => menus r ⊆ M

section Uses

variable {self} {A B M N : List Menu} {p : ClientM α} {q : α → ClientM β}

theorem Orderly.bind (hp : Orderly p) (hadded : p.All fun r => added r ⊆ A)
    (hq : ∀ a, Orderly (q a)) (hmenus : ∀ a, (q a).All fun r => menus r ⊆ N)
    (hdisjoint : ∀ m ∈ A, m ∉ N) : Orderly (p >>= q) := by
  induction p with
  | ret r =>
      cases r with
      | ok a => exact hq a
      | error e => trivial
  | ctl c k _ => exact hp.elim
  | stmt r k ih =>
      obtain ⟨honce, hdelete, hrest⟩ := hp
      constructor
      · intro m hm x
        apply (honce m hm x).bind
        intro a
        apply (hmenus a).mono
        exact fun r' hr' hmem => hdisjoint m (hadded.1 hm) (hr' hmem)
      · constructor
        · intro m id hr
          obtain ⟨e, he, hk⟩ := hdelete m id hr
          refine ⟨e, he, ?_⟩
          change (k (.ok missing)).handle _ = _
          rw [hk]
          rfl
        · exact fun x => ih x (hrest x) (hadded.2 x)

theorem Uses.mono (hp : Uses A M p) (hA : A ⊆ B) (hM : M ⊆ N) : Uses B N p where
  orderly := hp.orderly
  added := hp.added.mono fun _ h => List.Subset.trans h hA
  menus := hp.menus.mono fun _ h => List.Subset.trans h hM

theorem Uses.bind (hp : Uses A M p) (hq : ∀ a, Uses B N (q a))
    (hdisjoint : ∀ m ∈ A, m ∉ N) : Uses (A ++ B) (M ++ N) (p >>= q) where
  orderly := hp.orderly.bind hp.added (fun a => (hq a).orderly) (fun a => (hq a).menus) hdisjoint
  added := (hp.added.mono fun _ h => List.Subset.trans h (List.subset_append_left ..)).bind
    fun a => (hq a).added.mono fun _ h => List.Subset.trans h (List.subset_append_right ..)
  menus := (hp.menus.mono fun _ h => List.Subset.trans h (List.subset_append_left ..)).bind
    fun a => (hq a).menus.mono fun _ h => List.Subset.trans h (List.subset_append_right ..)

theorem ret_uses (r : Except ClientError α) : Uses [] [] (Prog.ret r : ClientM α) :=
  ⟨trivial, trivial, trivial⟩

/-- A request and the check of its response, as a tree. -/
theorem send_eq (self : RestClient) (r : Request) (context : String) :
    ∃ k, self.send r context = .stmt r k ∧ (∀ x, ∃ result, k x = .ret result) ∧
      ∃ e : ClientError, e.isMikroTik = true ∧ k (.ok missing) = .ret (.error e) := by
  refine ⟨_, rfl, ?_, ?_⟩
  · intro x
    cases x with
    | error e => exact ⟨.error e, rfl⟩
    | ok response =>
        by_cases hsuccess : response.is_success
        · refine ⟨.ok response, ?_⟩
          change self.check_response response context >>= _ = _
          rw [check_response, if_pos hsuccess]
          rfl
        · refine ⟨.error (.mikroTikError (self.error_msg response context)), ?_⟩
          change self.check_response response context >>= _ = _
          rw [check_response, if_neg hsuccess]
          rfl
  · exact ⟨_, rfl, rfl⟩

theorem send_uses (r : Request) (context : String) :
    Uses (added r) (menus r) (self.send r context) := by
  obtain ⟨k, hsend, hret, hmissing⟩ := send_eq self r context
  have hall (φ : Request → Prop) (x : Except ClientError Response) : (k x).All φ := by
    obtain ⟨result, hresult⟩ := hret x
    rw [hresult]
    trivial
  rw [hsend]
  constructor
  · refine ⟨fun _ _ x => hall _ x, fun _ _ _ => hmissing, fun x => ?_⟩
    obtain ⟨result, hresult⟩ := hret x
    rw [hresult]
    trivial
  · exact ⟨List.Subset.refl _, hall _⟩
  · exact ⟨List.Subset.refl _, hall _⟩

theorem add_uses (m : Menu) (json : Fields) (context : String) :
    Uses [m] [m] (self.send (.add m json) context) := send_uses (.add m json) context

theorem get_uses (m : Menu) (params : Fields) (context : String) :
    Uses [] [m] (self.send (.get m params) context) := send_uses (.get m params) context

theorem set_uses (s : Setting) (json : Fields) (context : String) :
    Uses [] [] (self.send (.set s json) context) := send_uses (.set s json) context

theorem fetch_uses (url dst_path mode context : String) :
    Uses [] [] (self.send (.fetch url dst_path mode) context) :=
  send_uses (.fetch url dst_path mode) context

theorem list_uses (m : Menu) (context : String) : Uses [] [m] (self.list m context) :=
  (get_uses m [] context).bind (fun _ => ret_uses _) (by simp)

theorem add_missing_uses (m : Menu) (listed created : String) (key : Attrs → Bool)
    (json : Fields) : Uses [m] [m] (self.add_missing m listed created key json) := by
  apply (Uses.bind (B := [m]) (N := [m]) (list_uses m listed) _ (by simp)).mono
  · simp
  · simp
  · intro items
    split
    · exact (ret_uses _).mono (by simp) (by simp)
    · exact (add_uses m json created).bind (fun _ => ret_uses _) (by simp)

theorem add_or_patch_uses (m : Menu) (listed created updated : String) (key : Attrs → Bool)
    (create change : Fields) :
    Uses [m] [m] (self.add_or_patch m listed created updated key create change) := by
  apply (Uses.bind (B := [m]) (N := [m]) (list_uses m listed) _ (by simp)).mono
  · simp
  · simp
  · intro items
    split
    · exact (add_uses m create created).bind (fun _ => ret_uses _) (by simp)
    · exact ((send_uses (.patch m _ change) updated).bind (fun _ => ret_uses _)
        (by simp [added])).mono (by simp [added]) (by simp [menus])

theorem forEach_uses {l : List β} {b : β → ClientM Unit} (h : ∀ x, Uses [] M (b x)) :
    Uses [] M (Prog.forEach l b) := by
  induction l with
  | nil => exact (ret_uses _).mono (List.Subset.refl _) (by simp)
  | cons x rest ih =>
      have hstep : Uses ([] ++ []) (M ++ M) (b x >>= fun _ => Prog.forEach rest b) :=
        (h x).bind (fun _ => ih) (by simp)
      exact hstep.mono (List.Subset.refl _) (by simp)

theorem delete_each_uses (m : Menu) (context : String) (key : Attrs → Bool)
    (items : List Item) : Uses [] [m] (self.delete_each m context key items) := by
  apply forEach_uses
  intro item
  split
  · exact (send_uses (.delete m item.id) context).bind (fun _ => ret_uses _) (by simp [added])
  · exact (ret_uses _).mono (List.Subset.refl _) (by simp)

end Uses

section Menus

variable {self R} {m : Menu} {r : Request} {p : ClientM α}

/-- A request leaves the other menus alone. -/
theorem answer_tables (c : RouterConfig) (h : m ∉ menus r) :
    (R.answer c r).2.tables m = c.tables m := by
  rw [Device.answer]
  split
  · rfl
  · cases r with
    | get m' params => rfl
    | add m' json => exact RouterConfig.tables_setTable_ne (by simpa [menus] using h)
    | patch m' id json =>
        rw [Device.carryOut]
        split
        · exact RouterConfig.tables_setTable_ne (by simpa [menus] using h)
        · rfl
    | delete m' id =>
        rw [Device.carryOut]
        split
        · exact RouterConfig.tables_setTable_ne (by simpa [menus] using h)
        · rfl
    | set s json => rfl
    | fetch url dst_path mode => rfl

theorem attempt_tables (l : Link) (h : m ∉ menus r) :
    (attempt R r l).2.config.tables m = l.config.tables m := by
  rw [attempt]
  split
  · rfl
  · exact answer_tables l.config h
  · exact answer_tables l.config h
  · exact answer_tables l.config h

theorem attempts_tables (n : ℕ) (l : Link) (h : m ∉ menus r) :
    (self.attempts R r n l).2.config.tables m = l.config.tables m := by
  induction n generalizing l with
  | zero => rfl
  | succ n ih =>
      have hfirst := attempt_tables (R := R) l h
      rw [attempts]
      split
      · next response l' heq =>
          rw [heq] at hfirst
          split
          · exact hfirst
          · exact hfirst
      · next l' heq =>
          rw [heq] at hfirst
          exact (ih l').trans hfirst

/-- A program leaves the menus alone that it does not use. -/
theorem runLink_tables (l : Link) (hp : p.All fun r => m ∉ menus r) :
    (self.runLink R p l).2.config.tables m = l.config.tables m := by
  have hrequest (r : Request) (hr : m ∉ menus r) (x : Link) :
      (self.request R r x).2.config.tables m = x.config.tables m :=
    attempts_tables (MAX_RETRIES + 1) x hr
  exact Prog.interpret_keeps (g := fun l : Link => l.config.tables m) hrequest hp l

theorem run_tables (c : RouterConfig) (hp : p.All fun r => m ∉ menus r) :
    (self.run R p c).2.tables m = c.tables m :=
  runLink_tables ⟨c, []⟩ hp

/-- Every answer to an add leaves one more item. -/
theorem length_applied (hR : R.AsTables) (json : Fields) (n : ℕ) (c : RouterConfig) :
    ((applied R (.add m json) n c).tables m).rows.length = (c.tables m).rows.length + n := by
  induction n with
  | zero => rfl
  | succ n ih =>
      have hstep : applied R (.add m json) (n + 1) c =
          (R.answer (applied R (.add m json) n c) (.add m json)).2 :=
        Function.iterate_succ_apply' ..
      rw [hstep, answer_eq hR, Device.carryOut, RouterConfig.tables_setTable, KeyTable.insert,
        List.length_append, List.length_singleton, ih]
      rfl

/-- An item that was deleted is missing from then on. -/
theorem answer_delete (hR : R.AsTables) {id n : ℕ} (hn : 0 < n) (c : RouterConfig) :
    (R.answer (applied R (.delete m id) n c) (.delete m id)).1 = missing := by
  have hgone (n : ℕ) : id ∉ ((applied R (.delete m id) (n + 1) c).tables m).ids := by
    have hstep : applied R (.delete m id) (n + 1) c =
        (R.answer (applied R (.delete m id) n c) (.delete m id)).2 :=
      Function.iterate_succ_apply' ..
    rw [hstep, answer_eq hR, Device.carryOut]
    split
    · rw [RouterConfig.tables_setTable, KeyTable.delete, KeyTable.filter, KeyTable.ids]
      intro hmem
      obtain ⟨r, hr, hid⟩ := List.mem_map.mp hmem
      have hne := (List.mem_filter.mp hr).2
      simp [hid] at hne
    · next hid => exact hid
  obtain ⟨n, rfl⟩ := Nat.exists_eq_succ_of_ne_zero (Nat.ne_of_gt hn)
  rw [answer_eq hR, Device.carryOut, if_neg (hgone n)]

end Menus

section Comparison

variable {self R} {p : ClientM α} {c : RouterConfig} {losses : List (List Loss)} {r : Request}
  {k : Except ClientError Response → ClientM α} {ls : List Loss} {rest : List (List Loss)}

theorem run_stmt (self : RestClient) (R : Device) (r : Request)
    (k : Except ClientError Response → ClientM α) (c : RouterConfig) : self.run R (.stmt r k) c =
      self.run R (k (self.deliver R r c).1) (self.deliver R r c).2 := by
  rw [run_eq, run_eq, Prog.interpret]

/-- The first request behind the network. -/
theorem runLink_stmt (h : ls.length ≤ MAX_RETRIES) (c : RouterConfig) :
    self.runLink R (.stmt r k) ⟨c, ls :: rest⟩ =
      self.runLink R (k (self.deliver R r (applied R r (ls.count .after) c)).1)
        ⟨(self.deliver R r (applied R r (ls.count .after) c)).2, rest⟩ := by
  rw [runLink, Prog.interpret, request, attempts_eq (Nat.lt_succ_of_le h), runLink]

/-- An add whose answer was lost leaves more items than one. -/
theorem not_transparent_add (hR : R.AsTables) (h : ls.length ≤ MAX_RETRIES) {m : Menu}
    {json : Fields} (honce : ∀ x, (k x).All fun r => m ∉ menus r) (hlost : .after ∈ ls) :
    ¬ Transparent self R (.stmt (.add m json) k) c (ls :: rest) := by
  rintro ⟨_, hsame⟩
  have hlength := (hsame.tables m).length_eq
  have hpos : 0 < ls.count .after := List.count_pos_iff.mpr hlost
  have hdelivered (c : RouterConfig) : (self.deliver R (.add m json) c).2 =
      applied R (.add m json) 1 c := rfl
  rw [run_stmt, run_tables _ (honce _), runLink_stmt h, runLink_tables _ (honce _),
    List.length_map, List.length_map, hdelivered, hdelivered, length_applied hR,
    length_applied hR, length_applied hR] at hlength
  omega

/-- A delete whose answer was lost ends in an error. -/
theorem not_transparent_delete (hR : R.AsTables) (h : ls.length ≤ MAX_RETRIES) {m : Menu} {id : ℕ}
    (hmissing : ∃ e : ClientError, e.isMikroTik = true ∧ k (.ok missing) = .ret (.error e))
    (hbase : ∀ e, (self.run R (.stmt (.delete m id) k) c).1 = .error e → e.isMikroTik = false)
    (hlost : .after ∈ ls) : ¬ Transparent self R (.stmt (.delete m id) k) c (ls :: rest) := by
  rintro ⟨houtcome, _⟩
  obtain ⟨e, he, hk⟩ := hmissing
  have hpos : 0 < ls.count .after := List.count_pos_iff.mpr hlost
  have hdelivered : (self.deliver R (.delete m id)
      (applied R (.delete m id) (ls.count .after) c)).1 = .ok missing := by
    rw [deliver, answer_delete hR hpos]
    rfl
  rw [runLink_stmt h, hdelivered, hk] at houtcome
  change SameOutcome _ (.error e) at houtcome
  cases hrun : (self.run R (.stmt (.delete m id) k) c).1 with
  | ok a =>
      rw [hrun] at houtcome
      exact houtcome
  | error e' =>
      have he' := hbase e' hrun
      rw [hrun] at houtcome
      cases houtcome with
      | inl heq =>
          rw [heq, he] at he'
          cases he'
      | inr hboth =>
          rw [hboth.1] at he'
          cases he'

/-- Whatever the network loses of a request that can be repeated, its run goes on as without. -/
theorem deliver_applied (hR : R.AsTables) (h : addsOrDeletes r = false) (n : ℕ) (c : RouterConfig) :
    self.deliver R r (applied R r n c) = self.deliver R r c := by
  rw [deliver, answer_applied hR h, deliver]

/-- An orderly program that meets no error of the router is transparent exactly where no add and
no delete is lost after its answer. -/
theorem transparent_iff (hR : R.AsTables) (hp : Orderly p) (c : RouterConfig)
    (hbase : ∀ e, (self.run R p c).1 = .error e → e.isMikroTik = false)
    (losses : List (List Loss)) (hlosses : ∀ ls ∈ losses, ls.length ≤ MAX_RETRIES) :
    Transparent self R p c losses ↔ Harmless self R p c losses := by
  induction p generalizing c losses with
  | ret r =>
      constructor
      · exact fun _ x hx => by cases hx
      · exact fun _ => ⟨.refl _, .refl _⟩
  | ctl e k _ => exact hp.elim
  | stmt r k ih =>
      cases losses with
      | nil =>
          constructor
          · intro _ x hx
            rw [List.zip_nil_right] at hx
            cases hx
          · exact fun _ => ⟨.refl _, .refl _⟩
      | cons ls rest =>
          obtain ⟨honce, hdelete, hrest⟩ := hp
          have hls : ls.length ≤ MAX_RETRIES := hlosses ls List.mem_cons_self
          have hhead : Harmless self R (.stmt r k) c (ls :: rest) ↔
              (addsOrDeletes r = true → .after ∉ ls) ∧
                Harmless self R (k (self.deliver R r c).1) (self.deliver R r c).2 rest := by
            rw [Harmless, requests, List.zip_cons_cons, List.forall_mem_cons]
            rfl
          rw [hhead]
          by_cases hbad : addsOrDeletes r = true ∧ .after ∈ ls
          · apply iff_of_false
            · cases r with
              | add m json =>
                  exact not_transparent_add hR hls (honce m List.mem_cons_self) hbad.2
              | delete m id =>
                  exact not_transparent_delete hR hls (hdelete m id rfl) hbase hbad.2
              | get m params => cases hbad.1
              | patch m id json => cases hbad.1
              | set s json => cases hbad.1
              | fetch url dst_path mode => cases hbad.1
            · exact fun hboth => hboth.1 hbad.1 hbad.2
          · have hdeliver : self.deliver R r (applied R r (ls.count .after) c) =
                self.deliver R r c := by
              by_cases hr : addsOrDeletes r = true
              · have hcount : ls.count .after = 0 :=
                  List.count_eq_zero.mpr fun hmem => hbad ⟨hr, hmem⟩
                rw [hcount]
                rfl
              · exact deliver_applied hR (by simpa using hr) _ c
            have htransparent : Transparent self R (.stmt r k) c (ls :: rest) ↔
                Transparent self R (k (self.deliver R r c).1) (self.deliver R r c).2 rest := by
              rw [Transparent, run_stmt, runLink_stmt hls, hdeliver]
              rfl
            rw [htransparent, ih _ (hrest _) _ (by rwa [run_stmt] at hbase) rest
              fun ls hmem => hlosses ls (List.mem_cons_of_mem _ hmem)]
            constructor
            · exact fun h => ⟨fun hr hmem => hbad ⟨hr, hmem⟩, h⟩
            · exact fun h => h.2

end Comparison

section Programs

variable {self R} {valid_netloc : List Char → Bool} {a : HotspotServer.Setup} {username : String}

theorem walled_garden_uses : Uses [.ip_hotspot_walled_garden_ip] [.ip_hotspot_walled_garden_ip]
    (HotspotServer.walled_garden valid_netloc self a) := by
  rw [HotspotServer.walled_garden]
  split
  · exact (ret_uses _).mono (by simp) (by simp)
  · exact (ret_uses _).mono (by simp) (by simp)
  · exact add_missing_uses ..

theorem setup_hotspot_server_orderly :
    Orderly (HotspotServer.setup_hotspot_server valid_netloc self a) := by
  have hnat (target_src : String) : Uses [.ip_firewall_nat] [.ip_firewall_nat]
      (self.add_missing .ip_firewall_nat "list NAT rules" "create NAT masquerade rule"
        HotspotServer.is_nat_rule (HotspotServer.Setup.nat_rule target_src)) :=
    add_missing_uses ..
  exact ((add_missing_uses ..).bind (fun _ =>
    (add_or_patch_uses ..).bind (fun _ =>
    (add_or_patch_uses ..).bind (fun _ =>
    (add_missing_uses ..).bind (fun _ =>
    walled_garden_uses.bind (fun _ =>
    (add_or_patch_uses ..).bind (fun _ =>
    (add_or_patch_uses ..).bind (fun _ =>
    (fetch_uses ..).bind (fun _ =>
    (list_uses ..).bind (fun _ =>
    (delete_each_uses ..).bind (fun _ =>
    (set_uses ..).bind (fun _ =>
    (add_uses ..).bind (fun _ =>
    (set_uses ..).bind (fun _ =>
    (ret_uses _).bind (fun target_src => hnat target_src)
      (by decide)) (by decide)) (by decide)) (by decide)) (by decide)) (by decide)) (by decide))
      (by decide)) (by decide)) (by decide)) (by decide)) (by decide)) (by decide))
      (by decide)).orderly

theorem remove_active_hotspot_session_orderly :
    Orderly (self.remove_active_hotspot_session username) :=
  ((get_uses ..).bind (fun _ => delete_each_uses ..) (by simp)).orderly

/-- On tables, no program of the client meets an error of the router. -/
theorem not_isMikroTik {p : ClientM α} {c : RouterConfig} {Q : α → RouterConfig → Prop}
    (hR : R.AsTables) (hp : self.Ends R p c Q) (e : ClientError) (h : (self.run R p c).1 = .error e) :
    e.isMikroTik = false := by
  have hrun : p.interpret (self.deliver R) c = (.error e, (self.run R p c).2) := by
    rw [← h, run_eq]
  have hrefused := hp.error hrun
  by_contra he
  obtain ⟨c, r, x, hx⟩ := hrefused (by simpa using he)
  rw [hR c r] at hx
  cases hx

theorem remove_active_hotspot_session_ends (c : RouterConfig) :
    self.Ends R (self.remove_active_hotspot_session username) c fun _ _ => True := by
  apply Prog.Gives.bind (send_ends _ rfl)
  rintro _ c ⟨rfl, rfl⟩
  have hsub : ∀ i ∈ (R.carryOut c (.get .ip_hotspot_active [("user", username)])).1.items,
      i ∈ (c.tables .ip_hotspot_active).rows := fun i hi => List.mem_of_mem_filter hi
  have hnodup : ((R.carryOut c (.get .ip_hotspot_active [("user", username)])).1.items.map
      (·.id)).Nodup := ((c.tables .ip_hotspot_active).filter _).nodup
  exact (delete_each_ends _ _ hsub hnodup).mono fun _ _ _ => trivial

end Programs

/-- Both programs are transparent to the network exactly where no attempt of an add or of a delete
is lost after the router has answered it. -/
theorem retries_transparent_iff (self : RestClient) (R : Device) (hR : R.AsTables)
    (valid_netloc : List Char → Bool) (a : HotspotServer.Setup) (username : String)
    (c : RouterConfig) (losses : List (List Loss)) (hlosses : ∀ ls ∈ losses, ls.length ≤ MAX_RETRIES) :
    (Transparent self R (HotspotServer.setup_hotspot_server valid_netloc self a) c losses ↔
      Harmless self R (HotspotServer.setup_hotspot_server valid_netloc self a) c losses) ∧
    (Transparent self R (self.remove_active_hotspot_session username) c losses ↔
      Harmless self R (self.remove_active_hotspot_session username) c losses) := by
  constructor
  · exact transparent_iff hR setup_hotspot_server_orderly c
      (not_isMikroTik hR HotspotServer.setup_hotspot_server_ends) losses hlosses
  · exact transparent_iff hR remove_active_hotspot_session_orderly c
      (not_isMikroTik hR (remove_active_hotspot_session_ends c)) losses hlosses

/-- The answer to the second request, which adds the address of the interface, is lost once. -/
def lostOnce : List (List Loss) := [[], [.after]]

theorem retries_transparent_first :
    (Transparent HotspotServer.client .plain (HotspotServer.setup_hotspot_server
      HotspotServer.valid HotspotServer.client HotspotServer.firstSetup) .blank lostOnce ↔
      Harmless HotspotServer.client .plain (HotspotServer.setup_hotspot_server
        HotspotServer.valid HotspotServer.client HotspotServer.firstSetup) .blank lostOnce) ∧
    (Transparent HotspotServer.client .plain
      (HotspotServer.client.remove_active_hotspot_session "guest") .blank lostOnce ↔
      Harmless HotspotServer.client .plain
        (HotspotServer.client.remove_active_hotspot_session "guest") .blank lostOnce) :=
  retries_transparent_iff HotspotServer.client .plain (fun _ _ => rfl) HotspotServer.valid
    HotspotServer.firstSetup "guest" .blank lostOnce (by decide)

theorem not_retries_transparent : ¬ ∀ (self : RestClient) (R : Device), R.AsTables →
    ∀ (valid_netloc : List Char → Bool) (a : HotspotServer.Setup) (username : String)
      (c : RouterConfig) (losses : List (List Loss)), (∀ ls ∈ losses, ls.length ≤ MAX_RETRIES) →
    Transparent self R (HotspotServer.setup_hotspot_server valid_netloc self a) c losses ∧
      Transparent self R (self.remove_active_hotspot_session username) c losses := by
  intro h
  have htransparent := (h HotspotServer.client .plain (fun _ _ => rfl) HotspotServer.valid
    HotspotServer.firstSetup "guest" .blank lostOnce (by decide)).1
  have hlength := (htransparent.2.tables .ip_address).length_eq
  revert hlength
  decide +kernel

end FrixelConnect.NetworkRetries
