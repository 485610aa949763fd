import FrixelConnect.RouterAddresses

/-!
# Peers on the interface and keys in the table

The interface `wg0` should carry one peer for each router with a key, at the router's
address. Each request updates the table and the interface in separate steps, and none
undoes the first when the second fails; a repeated registration leaves the old key on the
interface. A sequence of requests keeps the mirror at every point exactly when each of
them meets the condition that is stated for it here.
-/

namespace FrixelConnect

open Interleaving

namespace Routers

/-- The peer belongs to a router: its key and its address. -/
def Registered (d : RouterStore) (p : Peer) : Prop := ∃ r ∈ d.routers,
  r.wireguard_peer_public_key = some p.public_key ∧ r.wireguard_assigned_ip = p.allowed_ip

/-- The peers on the interface are those of the routers. -/
def Mirrored (d : RouterStore) : Prop := ∀ p, p ∈ d.wg0 ↔ Registered d p

/-- What the keys of the table and the interface itself guarantee. -/
structure Sound (d : RouterStore) : Prop where
  ids : (d.routers.map (·.id)).Nodup
  keys : (d.wg0.map (·.public_key)).Nodup
  ips : ∀ p ∈ d.wg0, ∀ q ∈ d.wg0, ∀ ip, p.allowed_ip = some ip → q.allowed_ip = some ip → p = q
  nonempty : ∀ p ∈ d.wg0, p.public_key ≠ ""

variable {d d' : RouterStore} {r row : RouterRow} {p : Peer} {key ip : String}

theorem mem_removePeer : p ∈ (d.removePeer key).wg0 ↔ p ∈ d.wg0 ∧ p.public_key ≠ key := by
  simp [RouterStore.removePeer]

theorem mem_setPeer : p ∈ (d.setPeer key ip).wg0 ↔ p = { public_key := key, allowed_ip := some ip } ∨
    p.public_key ≠ key ∧ (p ∈ d.wg0 ∧ p.allowed_ip ≠ some ip ∨
      p.allowed_ip = none ∧ { public_key := p.public_key, allowed_ip := some ip } ∈ d.wg0) := by
  obtain ⟨k, a⟩ := p
  simp only [RouterStore.setPeer, List.mem_append, List.mem_map, List.mem_filter,
    List.mem_singleton, bne_iff_ne]
  constructor
  · rintro (⟨⟨k', a'⟩, ⟨hq, hkey⟩, hq'⟩ | h)
    · by_cases hip : a' = some ip
      · subst hip
        obtain ⟨rfl, rfl⟩ : k' = k ∧ none = a := by simpa using hq'
        exact .inr ⟨hkey, .inr ⟨rfl, hq⟩⟩
      · obtain ⟨rfl, rfl⟩ : k' = k ∧ a' = a := by simpa [hip] using hq'
        exact .inr ⟨hkey, .inl ⟨hq, hip⟩⟩
    · exact .inl h
  · rintro (h | ⟨hkey, ⟨hp, hip⟩ | ⟨hip, hp⟩⟩)
    · exact .inr h
    · exact .inl ⟨⟨k, a⟩, ⟨hp, hkey⟩, if_neg (by simpa using hip)⟩
    · exact .inl ⟨⟨k, some ip⟩, ⟨hp, hkey⟩, by simpa using hip.symm⟩

theorem Sound.eq_of_key (hd : Sound d) {q : Peer} (hp : p ∈ d.wg0) (hq : q ∈ d.wg0)
    (h : p.public_key = q.public_key) : p = q := List.inj_on_of_nodup_map hd.keys hp hq h

/-- Configuring a peer that is there changes nothing. -/
theorem mem_setPeer_self (hd : Sound d) (h : { public_key := key, allowed_ip := some ip } ∈ d.wg0) :
    p ∈ (d.setPeer key ip).wg0 ↔ p ∈ d.wg0 := by
  rw [mem_setPeer]
  constructor
  · rintro (rfl | ⟨hkey, ⟨hp, -⟩ | ⟨-, hp⟩⟩)
    · exact h
    · exact hp
    · have hsame := hd.ips _ hp _ h ip rfl rfl
      exact absurd (congrArg Peer.public_key hsame) hkey
  · intro hp
    by_cases hkey : p.public_key = key
    · exact .inl (hd.eq_of_key hp h hkey)
    · refine .inr ⟨hkey, .inl ⟨hp, fun hip => hkey ?_⟩⟩
      exact congrArg Peer.public_key (hd.ips p hp _ h ip hip rfl)

/-- The mirror depends on the keys and the addresses of the routers only. -/
theorem Mirrored.congr (h : Mirrored d) (hr : ∀ p, Registered d' p ↔ Registered d p)
    (hw : ∀ p, p ∈ d'.wg0 ↔ p ∈ d.wg0) : Mirrored d' := by
  intro p
  rw [hw, hr]
  exact h p

section Insert

variable {tokens : List SetupToken}

/-- The store with one more router. -/
def withRouter (d : RouterStore) (row : RouterRow) (tokens : List SetupToken) : RouterStore :=
  { d with routers := d.routers ++ [row], setup_tokens := tokens }

theorem registered_withRouter : Registered (withRouter d row tokens) p ↔ Registered d p ∨
    row.wireguard_peer_public_key = some p.public_key ∧ row.wireguard_assigned_ip = p.allowed_ip := by
  simp [Registered, withRouter, or_and_right, exists_or]

/-- A router without a key. -/
theorem mirrored_withRouter (h : Mirrored d) (hkey : row.wireguard_peer_public_key = none) :
    Mirrored (withRouter d row tokens) := by
  refine h.congr (fun p => ?_) fun p => Iff.rfl
  rw [registered_withRouter, hkey]
  simp

variable (hkey : row.wireguard_peer_public_key = some key)
  (hip : row.wireguard_assigned_ip = some ip)
  (hfree : ∀ r ∈ d.routers, r.wireguard_assigned_ip ≠ some ip)
include hkey hip hfree

/-- A router whose peer is missing. -/
theorem not_mirrored_withRouter (h : Mirrored d) : ¬ Mirrored (withRouter d row tokens) := by
  intro hmirror
  have hnew : Registered (withRouter d row tokens) { public_key := key, allowed_ip := some ip } :=
    registered_withRouter.mpr (.inr ⟨hkey, hip⟩)
  obtain ⟨r, hr, -, hrip⟩ := (h _).mp ((hmirror _).mpr hnew)
  exact hfree r hr hrip

/-- A router with its peer: the key must be new. -/
theorem mirrored_withRouter_setPeer (h : Mirrored d) :
    Mirrored ((withRouter d row tokens).setPeer key ip) ↔
      ∀ r ∈ d.routers, r.wireguard_peer_public_key ≠ some key := by
  have hreg (p : Peer) : Registered ((withRouter d row tokens).setPeer key ip) p ↔
      Registered d p ∨ p = { public_key := key, allowed_ip := some ip } := by
    have hrow : Registered (withRouter d row tokens) p ↔ _ := registered_withRouter
    rw [hkey, hip] at hrow
    refine Iff.trans hrow (or_congr_right ⟨?_, ?_⟩)
    · rintro ⟨hk, ha⟩
      cases p
      cases hk
      cases ha
      rfl
    · rintro rfl
      exact ⟨rfl, rfl⟩
  constructor
  · intro hmirror r hr hrkey
    have hp : Registered ((withRouter d row tokens).setPeer key ip)
        { public_key := key, allowed_ip := r.wireguard_assigned_ip } :=
      (hreg _).mpr (.inl ⟨r, hr, hrkey, rfl⟩)
    rcases mem_setPeer.mp ((hmirror _).mpr hp) with heq | ⟨hne, -⟩
    · exact hfree r hr (congrArg Peer.allowed_ip heq)
    · exact hne rfl
  · intro hfresh p
    rw [hreg, mem_setPeer]
    constructor
    · rintro (rfl | ⟨-, ⟨hp, -⟩ | ⟨-, hp⟩⟩)
      · exact .inr rfl
      · exact .inl ((h p).mp hp)
      · obtain ⟨r, hr, -, hrip⟩ := (h _).mp hp
        exact absurd hrip (hfree r hr)
    · rintro (hp | rfl)
      · obtain ⟨r, hr, hrkey, hrip⟩ := hp
        refine .inr ⟨fun heq => hfresh r hr (heq ▸ hrkey), .inl ⟨(h p).mpr ⟨r, hr, hrkey, hrip⟩, ?_⟩⟩
        rw [← hrip]
        exact hfree r hr
      · exact .inl rfl

end Insert

section Delete

variable (hr : r ∈ d.routers)
  (hgone : ∀ r', r' ∈ d'.routers ↔ r' ∈ d.routers ∧ r'.id ≠ r.id)

/-- Another router has the key. -/
def Shared (d : RouterStore) (id : UUID) (key : String) : Prop :=
  ∃ r' ∈ d.routers, r'.id ≠ id ∧ r'.wireguard_peer_public_key = some key

include hr hgone

/-- A deleted router without a key. -/
theorem mirrored_delete (hd : Sound d) (h : Mirrored d)
    (hkey : r.wireguard_peer_public_key = none) (hw : d'.wg0 = d.wg0) : Mirrored d' := by
  refine h.congr (fun p => ?_) fun p => by rw [hw]
  constructor
  · rintro ⟨r', hr', hk, ha⟩
    exact ⟨r', ((hgone r').mp hr').1, hk, ha⟩
  · rintro ⟨r', hr', hk, ha⟩
    refine ⟨r', (hgone r').mpr ⟨hr', fun hid => ?_⟩, hk, ha⟩
    rw [List.inj_on_of_nodup_map hd.ids hr' hr hid, hkey] at hk
    cases hk

/-- A deleted router whose peer stays: another router must have the key. -/
theorem mirrored_delete_kept (hd : Sound d) (h : Mirrored d)
    (hkey : r.wireguard_peer_public_key = some key) (hw : d'.wg0 = d.wg0) :
    Mirrored d' ↔ Shared d r.id key := by
  have hpeer : { public_key := key, allowed_ip := r.wireguard_assigned_ip } ∈ d.wg0 :=
    (h _).mpr ⟨r, hr, hkey, rfl⟩
  constructor
  · intro hmirror
    obtain ⟨r', hr', hk, -⟩ := (hmirror _).mp (hw ▸ hpeer)
    exact ⟨r', ((hgone r').mp hr').1, ((hgone r').mp hr').2, hk⟩
  · rintro ⟨r₁, hr₁, hne, hk₁⟩
    have hpeer₁ : { public_key := key, allowed_ip := r₁.wireguard_assigned_ip } ∈ d.wg0 :=
      (h _).mpr ⟨r₁, hr₁, hk₁, rfl⟩
    have hip : r₁.wireguard_assigned_ip = r.wireguard_assigned_ip :=
      congrArg Peer.allowed_ip (hd.eq_of_key hpeer₁ hpeer rfl)
    refine h.congr (fun p => ⟨?_, ?_⟩) fun p => by rw [hw]
    · rintro ⟨r', hr', hk, ha⟩
      exact ⟨r', ((hgone r').mp hr').1, hk, ha⟩
    · rintro ⟨r', hr', hk, ha⟩
      by_cases hid : r'.id = r.id
      · rw [List.inj_on_of_nodup_map hd.ids hr' hr hid] at hk ha
        have hkey' : key = p.public_key := by simpa [hkey] using hk
        exact ⟨r₁, (hgone r₁).mpr ⟨hr₁, hne⟩, hkey' ▸ hk₁, hip.trans ha⟩
      · exact ⟨r', (hgone r').mpr ⟨hr', hid⟩, hk, ha⟩

/-- A deleted router whose peer is removed: no other router may have the key. -/
theorem mirrored_delete_removed (hd : Sound d) (h : Mirrored d)
    (hkey : r.wireguard_peer_public_key = some key) (hw : d'.wg0 = (d.removePeer key).wg0) :
    Mirrored d' ↔ ¬ Shared d r.id key := by
  constructor
  · rintro hmirror ⟨r', hr', hne, hk⟩
    have hreg : Registered d' { public_key := key, allowed_ip := r'.wireguard_assigned_ip } :=
      ⟨r', (hgone r').mpr ⟨hr', hne⟩, hk, rfl⟩
    have hmem := (hmirror _).mpr hreg
    rw [hw] at hmem
    exact (mem_removePeer.mp hmem).2 rfl
  · intro hshared p
    rw [hw, mem_removePeer, h p]
    constructor
    · rintro ⟨⟨r', hr', hk, ha⟩, hne⟩
      refine ⟨r', (hgone r').mpr ⟨hr', fun hid => hne ?_⟩, hk, ha⟩
      rw [List.inj_on_of_nodup_map hd.ids hr' hr hid, hkey] at hk
      exact (Option.some.inj hk).symm
    · rintro ⟨r', hr', hk, ha⟩
      obtain ⟨hr', hid⟩ := (hgone r').mp hr'
      exact ⟨⟨r', hr', hk, ha⟩, fun heq => hshared ⟨r', hr', hid, heq ▸ hk⟩⟩

end Delete

/-- A peer that is removed while its router stays. -/
theorem not_mirrored_removePeer (hr : r ∈ d.routers)
    (hkey : r.wireguard_peer_public_key = some key) : ¬ Mirrored (d.removePeer key) := by
  intro hmirror
  have hreg : Registered (d.removePeer key)
      { public_key := key, allowed_ip := r.wireguard_assigned_ip } := ⟨r, hr, hkey, rfl⟩
  exact (mem_removePeer.mp ((hmirror _).mpr hreg)).2 rfl

section Register

/-- A peer that is configured while the table stays: it must be there already. -/
theorem mirrored_setPeer (hd : Sound d) (h : Mirrored d) : Mirrored (d.setPeer key ip) ↔
    ∃ r ∈ d.routers, r.wireguard_peer_public_key = some key ∧
      r.wireguard_assigned_ip = some ip := by
  constructor
  · intro hmirror
    exact (hmirror _).mp (mem_setPeer.mpr (.inl rfl))
  · intro hreg
    have hpeer := (h { public_key := key, allowed_ip := some ip }).mpr hreg
    exact h.congr (fun p => Iff.rfl) fun p => mem_setPeer_self hd hpeer

/-- The router has no other key, and its peer gets in the way of no other router. -/
def Replaces (d : RouterStore) (r : RouterRow) (key ip : String) : Prop :=
  (r.wireguard_peer_public_key = none ∨ r.wireguard_peer_public_key = some key) ∧
    ∀ r' ∈ d.routers, r'.id ≠ r.id → ∀ key', r'.wireguard_peer_public_key = some key' →
      (key' = key ↔ r'.wireguard_assigned_ip = some ip)

/-- A registered key. -/
theorem mirrored_register (hd : Sound d) (h : Mirrored d) (hr : r ∈ d.routers)
    (hip : r.wireguard_assigned_ip = some ip)
    (hreg : ∀ p, Registered d' p ↔ p = { public_key := key, allowed_ip := some ip } ∨
      ∃ r' ∈ d.routers, r'.id ≠ r.id ∧ r'.wireguard_peer_public_key = some p.public_key ∧
        r'.wireguard_assigned_ip = p.allowed_ip)
    (hw : d'.wg0 = (d.setPeer key ip).wg0) : Mirrored d' ↔ Replaces d r key ip := by
  constructor
  · intro hmirror
    refine ⟨?_, fun r' hr' hne key' hkey' => ⟨fun heq => ?_, fun hip' => ?_⟩⟩
    · by_contra hold
      obtain ⟨key₀, hkey₀⟩ := Option.ne_none_iff_exists'.mp (not_or.mp hold).1
      have hne : key₀ ≠ key := fun heq => hold (.inr (heq ▸ hkey₀))
      have hpeer : { public_key := key₀, allowed_ip := some ip } ∈ d.wg0 :=
        (h _).mpr ⟨r, hr, hkey₀, hip⟩
      have hlost : { public_key := key₀, allowed_ip := none } ∈ d'.wg0 := by
        rw [hw]
        exact mem_setPeer.mpr (.inr ⟨hne, .inr ⟨rfl, hpeer⟩⟩)
      rcases (hreg _).mp ((hmirror _).mp hlost) with heq | ⟨r', hr', -, hk, ha⟩
      · cases heq
      · have hpeer' : { public_key := key₀, allowed_ip := none } ∈ d.wg0 := (h _).mpr ⟨r', hr', hk, ha⟩
        cases hd.eq_of_key hpeer' hpeer rfl
    · have hmem : { public_key := key, allowed_ip := r'.wireguard_assigned_ip } ∈ d'.wg0 :=
        (hmirror _).mpr ((hreg _).mpr (.inr ⟨r', hr', hne, heq ▸ hkey', rfl⟩))
      rw [hw] at hmem
      rcases mem_setPeer.mp hmem with heq | ⟨hkey, -⟩
      · exact congrArg Peer.allowed_ip heq
      · exact absurd rfl hkey
    · have hmem : { public_key := key', allowed_ip := some ip } ∈ d'.wg0 :=
        (hmirror _).mpr ((hreg _).mpr (.inr ⟨r', hr', hne, hkey', hip'⟩))
      rw [hw] at hmem
      rcases mem_setPeer.mp hmem with heq | ⟨-, ⟨-, hne⟩ | ⟨hnone, -⟩⟩
      · exact congrArg Peer.public_key heq
      · exact absurd rfl hne
      · cases hnone
  · rintro ⟨hold, hothers⟩ p
    rw [hreg, hw, mem_setPeer]
    constructor
    · rintro (rfl | ⟨hne, ⟨hp, hpip⟩ | ⟨hnone, hp⟩⟩)
      · exact .inl rfl
      · obtain ⟨r', hr', hk, ha⟩ := (h p).mp hp
        refine .inr ⟨r', hr', fun hid => hpip ?_, hk, ha⟩
        rw [← ha, List.inj_on_of_nodup_map hd.ids hr' hr hid, hip]
      · obtain ⟨r', hr', hk, ha⟩ := (h _).mp hp
        by_cases hid : r'.id = r.id
        · rw [List.inj_on_of_nodup_map hd.ids hr' hr hid] at hk
          rcases hold with hold | hold
          · rw [hold] at hk
            cases hk
          · rw [hold] at hk
            exact absurd (Option.some.inj hk).symm hne
        · exact absurd ((hothers r' hr' hid _ hk).mpr ha) hne
    · rintro (rfl | ⟨r', hr', hid, hk, ha⟩)
      · exact .inl rfl
      · have hiff := hothers r' hr' hid _ hk
        by_cases hne : p.public_key = key
        · refine .inl ?_
          obtain ⟨k, a⟩ := p
          have ha' : some ip = a := (hiff.mp hne).symm.trans ha
          cases hne
          cases ha'
          rfl
        · refine .inr ⟨hne, .inl ⟨(h p).mpr ⟨r', hr', hk, ha⟩, fun hpip => hne (hiff.mpr ?_)⟩⟩
          rw [ha, hpip]

end Register

end Routers

end FrixelConnect
