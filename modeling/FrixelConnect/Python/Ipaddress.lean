import FrixelConnect.Python.Text
import Mathlib.Data.Fin.Basic

/-!
# IPv4 networks as Python reads and lists them

The part of the module `ipaddress` that reads a network from its text, without regard to host
bits, and lists its hosts.

## Implementation notes

An exception carries the reason and the text that it names, not the rendered message.
-/

namespace Python

/-- An address, as the number of its four octets. -/
abbrev IPv4Address := Fin (2 ^ 32)

/-- Why an octet is refused. -/
inductive OctetError where
  | empty
  | digits (octet_str : List Char)
  | length (octet_str : List Char)
  | leadingZeros (octet_str : List Char)
  | range (octet_int : ℕ)
  deriving DecidableEq

/-- `AddressValueError` and `NetmaskValueError`; both are a `ValueError`. -/
inductive AddressError where
  | empty
  | octetCount (ip_str : List Char)
  | octet (e : OctetError) (ip_str : List Char)
  | slashes (address : List Char)
  | netmask (netmask_str : List Char)
  deriving DecidableEq

/-- `int(s)` of ASCII digits. -/
def intOfDigits (s : List Char) : ℕ := ofDigits (s.map fun c => c.toNat - '0'.toNat)

def parse_octet (octet_str : List Char) : Except OctetError (Fin 256) :=
  if octet_str = [] then .error .empty
  else if !octet_str.all Char.isDigit then .error (.digits octet_str)
  else if 3 < octet_str.length then .error (.length octet_str)
  else if octet_str ≠ ['0'] ∧ octet_str.head? = some '0' then .error (.leadingZeros octet_str)
  else if h : intOfDigits octet_str < 256 then .ok ⟨intOfDigits octet_str, h⟩
  else .error (.range (intOfDigits octet_str))

namespace IPv4Address

/-- `int.from_bytes` of the octets. -/
def ofOctets (a b c d : Fin 256) : IPv4Address :=
  ⟨((a * 256 + b) * 256 + c) * 256 + d, by omega⟩

/-- The octet of weight `2 ^ (8 * i)`. -/
def octet (a : IPv4Address) (i : ℕ) : Fin 256 := ⟨a / 2 ^ (8 * i) % 256, Nat.mod_lt _ (by decide)⟩

def octets (a : IPv4Address) : List (Fin 256) := [a.octet 3, a.octet 2, a.octet 1, a.octet 0]

/-- `str(a)`. -/
def str (a : IPv4Address) : String :=
  String.ofList (['.'].intercalate (a.octets.map fun o => (toString o.val).toList))

end IPv4Address

def ip_int_from_string (ip_str : List Char) : Except AddressError IPv4Address :=
  if ip_str = [] then .error .empty
  else match ip_str.splitOn '.' with
    | [a, b, c, d] =>
        (do
          let a ← parse_octet a
          let b ← parse_octet b
          let c ← parse_octet c
          let d ← parse_octet d
          pure (IPv4Address.ofOctets a b c d)).mapError fun e => .octet e ip_str
    | _ => .error (.octetCount ip_str)

/-- The prefix length of a netmask in that form; longer texts than `int` reads are none. -/
def prefix_from_prefix_string ( prefixlen_str : List Char) : Option (Fin 33) :=
  if prefixlen_str ≠ [] ∧ prefixlen_str.all Char.isDigit ∧ prefixlen_str.length ≤ 4300 then
    if h : intOfDigits prefixlen_str < 33 then some ⟨intOfDigits prefixlen_str, h⟩ else none
  else none

/-- The prefix length of a netmask that is ones, then zeros. -/
def prefix_from_ip_int (ip_int : ℕ) : Option (Fin 33) :=
  (List.finRange 33).find? fun p => ip_int + 2 ^ (32 - p.val) = 2 ^ 32

/-- The prefix length of a netmask or hostmask in the form of an address. -/
def prefix_from_ip_string (ip_str : List Char) : Except AddressError (Fin 33) :=
  match ip_int_from_string ip_str with
  | .error _ => .error (.netmask ip_str)
  | .ok ip_int =>
      match (prefix_from_ip_int ip_int).orElse fun _ =>
          prefix_from_ip_int (2 ^ 32 - 1 - ip_int) with
      | some p => .ok p
      | none => .error (.netmask ip_str)

def make_netmask (arg : List Char) : Except AddressError (Fin 33) :=
  match prefix_from_prefix_string arg with
  | some prefixlen => .ok prefixlen
  | none => prefix_from_ip_string arg

/-- A network: its first address, which has no host bits, and the length of its prefix. -/
structure IPv4Network where
  network_address : IPv4Address
  prefixlen : Fin 33
  aligned : 2 ^ (32 - prefixlen.val) ∣ network_address.val
  deriving DecidableEq

namespace IPv4Network

/-- The network of an address, whose host bits are dropped. -/
def of (a : IPv4Address) (p : Fin 33) : IPv4Network where
  network_address := ⟨a / 2 ^ (32 - p.val) * 2 ^ (32 - p.val),
    (Nat.div_mul_le_self _ _).trans_lt a.isLt⟩
  prefixlen := p
  aligned := Nat.dvd_mul_left _ _

/-- `IPv4Network(address, strict=False)`. -/
def parse (address : String) : Except AddressError IPv4Network :=
  match address.toList.splitOn '/' with
  | [addr] => (ip_int_from_string addr).map fun a => of a 32
  | [addr, mask] => do
      let a ← ip_int_from_string addr
      let p ← make_netmask mask
      pure (of a p)
  | _ => .error (.slashes address.toList)

variable (n : IPv4Network)

/-- `str(network)`. -/
def str : String := n.network_address.str ++ "/" ++ toString n.prefixlen.val

/-- The number of addresses. -/
def size : ℕ := 2 ^ (32 - n.prefixlen.val)

/-- `addr in network`. -/
def Contains (a : IPv4Address) : Prop :=
  n.network_address.val ≤ a.val ∧ a.val < n.network_address.val + n.size

/-- The addresses from a number on. -/
def addresses (first count : ℕ) : List IPv4Address :=
  (List.range' first count).map (Fin.ofNat (2 ^ 32))

/-- `list(network.hosts())`: without the network and the broadcast address, except where the
network has no other addresses. -/
def hosts : List IPv4Address :=
  if n.prefixlen = 32 then [n.network_address]
  else if n.prefixlen = 31 then addresses n.network_address 2
  else addresses (n.network_address + 1) (n.size - 2)

end IPv4Network

section RoundTrip

theorem parse_octet_toString (o : Fin 256) : parse_octet (toString o.val).toList = .ok o := by
  have hall : ∀ o : Fin 256, parse_octet (toString o.val).toList = .ok o := by decide +kernel
  exact hall o

/-- The text of an octet has digits only. -/
theorem isDigit_toString (o : Fin 256) : (toString o.val).toList.all Char.isDigit = true := by
  have hall : ∀ o : Fin 256, (toString o.val).toList.all Char.isDigit = true := by decide +kernel
  exact hall o

theorem not_mem_of_isDigit {s : List Char} {c : Char} (hs : s.all Char.isDigit = true)
    (hc : c.isDigit = false) : c ∉ s := by
  intro hmem
  rw [List.all_eq_true.mp hs c hmem] at hc
  cases hc

theorem IPv4Address.ofOctets_octets (a : IPv4Address) :
    ofOctets (a.octet 3) (a.octet 2) (a.octet 1) (a.octet 0) = a := by
  apply Fin.ext
  simp only [ofOctets, octet]
  omega

/-- The text of an address is read as that address. -/
theorem ip_int_from_string_str (a : IPv4Address) : ip_int_from_string a.str.toList = .ok a := by
  have hsplit : a.str.toList.splitOn '.' = a.octets.map fun o => (toString o.val).toList := by
    rw [IPv4Address.str, String.toList_ofList]
    apply List.splitOn_intercalate
    · intro l hl
      obtain ⟨o, _, rfl⟩ := List.mem_map.mp hl
      exact not_mem_of_isDigit (isDigit_toString o) (by decide)
    · simp [IPv4Address.octets]
  have hne : a.str.toList ≠ [] := by
    intro h
    rw [h] at hsplit
    have hlen := congrArg List.length hsplit
    simp [IPv4Address.octets] at hlen
  rw [ip_int_from_string, if_neg hne, hsplit]
  simp only [IPv4Address.octets, List.map_cons, List.map_nil, parse_octet_toString]
  exact congrArg Except.ok a.ofOctets_octets

theorem make_netmask_toString (p : Fin 33) : make_netmask (toString p.val).toList = .ok p := by
  have hall : ∀ p : Fin 33, make_netmask (toString p.val).toList = .ok p := by decide +kernel
  exact hall p

theorem IPv4Address.slash_not_mem_str (a : IPv4Address) : '/' ∉ a.str.toList := by
  intro hmem
  rw [IPv4Address.str, String.toList_ofList, IPv4Address.octets] at hmem
  simp only [List.map_cons, List.map_nil, List.intercalate_cons_cons, List.intercalate_singleton,
    List.mem_append, List.mem_singleton, List.append_assoc] at hmem
  have hoctet (o : Fin 256) : '/' ∉ (toString o.val).toList :=
    not_mem_of_isDigit (isDigit_toString o) (by decide)
  have hdot : '/' ≠ '.' := by decide
  simp only [hoctet, hdot, or_self] at hmem

namespace IPv4Network

/-- An address with a netmask. -/
theorem parse_mask {address : String} (a : IPv4Address) (mask : List Char)
    (h : address.toList = a.str.toList ++ '/' :: mask) (hmask : '/' ∉ mask) :
    parse address = (make_netmask mask).map (of a) := by
  have hsplit : address.toList.splitOn '/' = [a.str.toList, mask] := by
    have hjoin : address.toList = ['/'].intercalate [a.str.toList, mask] := by
      rw [h, List.intercalate_cons_cons, List.intercalate_singleton, List.append_assoc]
      rfl
    rw [hjoin]
    apply List.splitOn_intercalate
    · simp [a.slash_not_mem_str, hmask]
    · simp
  rw [parse, hsplit]
  simp only [ip_int_from_string_str]
  cases make_netmask mask with
  | ok p => rfl
  | error e => rfl

/-- A network that is written with its prefix length. -/
theorem parse_prefix (a : IPv4Address) (p : Fin 33) :
    parse (a.str ++ "/" ++ toString p.val) = .ok (of a p) := by
  have hslash : ∀ p : Fin 33, (toString p.val).toList.all (· != '/') = true := by decide +kernel
  have hmask : '/' ∉ (toString p.val).toList := by
    intro hmem
    have hne := List.all_eq_true.mp (hslash p) '/' hmem
    cases hne
  rw [parse_mask a (toString p.val).toList _ hmask, make_netmask_toString]
  · rfl
  · rw [String.toList_append, String.toList_append, List.append_assoc]
    rfl

theorem of_self (n : IPv4Network) : of n.network_address n.prefixlen = n := by
  have haddr : (of n.network_address n.prefixlen).network_address = n.network_address :=
    Fin.ext (Nat.div_mul_cancel n.aligned)
  cases n
  simpa only [of, mk.injEq, and_true] using haddr

/-- The text of a network is read as that network. -/
theorem parse_str (n : IPv4Network) : parse n.str = .ok n := by
  rw [str, parse_prefix, of_self]

/-- The network of an address has the addresses that agree with it outside the host bits. -/
theorem contains_of {a b : IPv4Address} {p : Fin 33} :
    (of a p).Contains b ↔ b.val / 2 ^ (32 - p.val) = a.val / 2 ^ (32 - p.val) := by
  have hpos : 0 < 2 ^ (32 - p.val) := Nat.pow_pos (by decide)
  rw [Nat.div_eq_iff hpos, Contains, of, size]
  dsimp only
  omega

/-- The addresses of a network agree outside the host bits. -/
theorem Contains.div_eq {n : IPv4Network} {a : IPv4Address} (h : n.Contains a) :
    a.val / n.size = n.network_address.val / n.size := by
  rw [← n.of_self] at h
  exact contains_of.mp h

end IPv4Network

end RoundTrip

namespace IPv4Network

section Hosts

variable (n : IPv4Network)

theorem size_pos : 0 < n.size := Nat.pow_pos (by decide)

/-- A network ends within the address space. -/
theorem address_add_size_le : n.network_address.val + n.size ≤ 2 ^ 32 := by
  have hspace : n.size ∣ 2 ^ 32 := Nat.pow_dvd_pow 2 (Nat.sub_le 32 _)
  have hlt : n.network_address.val + n.size < 2 ^ 32 + n.size :=
    Nat.add_lt_add_right n.network_address.isLt _
  exact Nat.le_of_lt_add_of_dvd hlt (Nat.dvd_add n.aligned (Nat.dvd_refl _)) hspace

variable {n}

theorem getElem?_addresses (first count i : ℕ) (hi : i < count) (hlt : first + i < 2 ^ 32) :
    (addresses first count)[i]? = some ⟨first + i, hlt⟩ := by
  rw [addresses, List.getElem?_map, List.getElem?_range' hi, Option.map_some, one_mul]
  exact congrArg some (Fin.ext (Nat.mod_eq_of_lt hlt))

theorem length_addresses (first count : ℕ) : (addresses first count).length = count := by
  rw [addresses, List.length_map, List.length_range']

end Hosts

end IPv4Network

end Python
