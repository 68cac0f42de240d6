import Mathlib.Data.Rat.Floor

/-! # Common types of the trading library

Addresses and transaction ids come from the `bitcoin` crate. Only their text
forms, the network check and the script of an address are used here, so the crate
is a parameter. The `f64` amounts of an order are read as exact rationals.
-/

namespace FatCrabTrading

/-- `bitcoin::Network`. -/
inductive Network where
  | bitcoin
  | testnet
  | signet
  | regtest
  deriving DecidableEq

/-- `Display` of a network, as error texts print it. -/
def Network.display : Network → String
  | .bitcoin => "bitcoin"
  | .testnet => "testnet"
  | .signet => "signet"
  | .regtest => "regtest"

/-- `uuid::Uuid`. -/
structure Uuid where
  bits : BitVec 128
  deriving DecidableEq

/-- The last `size` hexadecimal digits of a number. -/
def hexDigits : ℕ → ℕ → List Char
  | 0, _ => []
  | size + 1, n => hexDigits size (n / 16) ++ [Nat.digitChar (n % 16)]

/-- `Display` of a uuid: hexadecimal digits in groups of 8, 4, 4, 4 and 12. -/
def Uuid.display (uuid : Uuid) : String :=
  let digits := hexDigits 32 uuid.bits.toNat
  let group (start size : ℕ) := String.ofList ((digits.drop start).take size)
  s!"{group 0 8}-{group 8 4}-{group 12 4}-{group 16 4}-{group 20 12}"

example : (Uuid.mk 7).display = "00000000-0000-0000-0000-000000000007" := by decide +kernel

@[simp] theorem length_hexDigits (size n : ℕ) : (hexDigits size n).length = size := by
  induction size generalizing n with
  | zero => rfl
  | succ size ih => simp [hexDigits, ih]

theorem digitChar_inj : ∀ first < 16, ∀ second < 16,
    Nat.digitChar first = Nat.digitChar second → first = second := by
  decide

/-- The digits of a number that has no more of them determine it. -/
theorem hexDigits_inj {size first second : ℕ} (hfirst : first < 16 ^ size)
    (hsecond : second < 16 ^ size) (hdigits : hexDigits size first = hexDigits size second) :
    first = second := by
  induction size generalizing first second with
  | zero => omega
  | succ size ih =>
      have hpow : 16 ^ (size + 1) = 16 * 16 ^ size := Nat.pow_succ'
      obtain ⟨hhigh, hlow⟩ := List.append_inj hdigits (by simp)
      have hquotient := ih (by omega) (by omega) hhigh
      have hremainder := digitChar_inj _ (Nat.mod_lt _ (by omega)) _ (Nat.mod_lt _ (by omega))
        (List.cons.inj hlow).1
      omega

/-- The groups of a uuid's text, without the hyphens between them. -/
theorem groups_append {digits : List Char} (hlength : digits.length = 32) :
    (digits.drop 0).take 8 ++ (digits.drop 8).take 4 ++ (digits.drop 12).take 4 ++
      (digits.drop 16).take 4 ++ (digits.drop 20).take 12 = digits := by
  have hgroup : ∀ start size, (digits.drop start).take size ++ digits.drop (start + size) =
      digits.drop start := by
    intro start size
    rw [← List.drop_drop, List.take_append_drop]
  have hlast : (digits.drop 20).take 12 = digits.drop 20 :=
    List.take_of_length_le (by simp [hlength])
  simp only [List.append_assoc]
  rw [hlast, hgroup 16 4, hgroup 12 4, hgroup 8 4, hgroup 0 8, List.drop_zero]

/-- The text of a uuid determines it. -/
theorem Uuid.display_inj {first second : Uuid} (hdisplay : first.display = second.display) :
    first = second := by
  have hfirst := length_hexDigits 32 first.bits.toNat
  have hsecond := length_hexDigits 32 second.bits.toNat
  have hlist := congrArg String.toList hdisplay
  simp only [Uuid.display, String.toList_append, String.toList_ofList, toString] at hlist
  -- the groups have the same sizes in both texts
  obtain ⟨hlist, hlast⟩ := List.append_inj' hlist (by simp)
  obtain ⟨hlist, -⟩ := List.append_inj' hlist rfl
  obtain ⟨hlist, hfourth⟩ := List.append_inj' hlist (by simp)
  obtain ⟨hlist, -⟩ := List.append_inj' hlist rfl
  obtain ⟨hlist, hthird⟩ := List.append_inj' hlist (by simp)
  obtain ⟨hlist, -⟩ := List.append_inj' hlist rfl
  obtain ⟨hlist, hsecondGroup⟩ := List.append_inj' hlist (by simp)
  obtain ⟨hfirstGroup, -⟩ := List.append_inj' hlist rfl
  have hdigits : hexDigits 32 first.bits.toNat = hexDigits 32 second.bits.toNat := by
    rw [← groups_append hfirst, ← groups_append hsecond, hfirstGroup, hsecondGroup, hthird,
      hfourth, hlast]
  have hbits := hexDigits_inj (first.bits.isLt.trans_le (by norm_num))
    (second.bits.isLt.trans_le (by norm_num)) hdigits
  exact congrArg Uuid.mk (BitVec.eq_of_toNat_eq hbits)

/-- An error of the n3xB crate, known by its text. -/
structure N3xbError where
  text : String
  deriving DecidableEq

/-- An error of the BDK crate, known by its text. -/
structure BdkError where
  text : String
  deriving DecidableEq

/-- An error of `bip39`, known by its text. -/
structure Bip39Error where
  text : String
  deriving DecidableEq

/-- `FatCrabError`, with the variants that the actors and the purse produce. -/
inductive FatCrabError where
  | txNotFound
  | txUnconfirmed
  | simple (description : String)
  | n3xb (error : N3xbError)
  | bdkBip39 (error : Bip39Error)
  | bdk (error : BdkError)
  deriving DecidableEq

/-- `impl Display for FatCrabError`. -/
def FatCrabError.display : FatCrabError → String
  | .txNotFound => "FatCrab-Error | TxNotFound"
  | .txUnconfirmed => "FatCrab-Error | TxUnconfirmed"
  | .simple description => s!"FatCrab-Error | Simple - {description}"
  | .n3xb error => s!"FatCrab-Error | n3xb - {error.text}"
  | .bdkBip39 error => s!"FatCrab-Error | bip39 - {error.text}"
  | .bdk error => s!"FatCrab-Error | bdk - {error.text}"

/-- What the library uses of the `bitcoin` crate. -/
class Bitcoin where
  Address : Type
  Txid : Type
  Script : Type
  addressFromStr : String → Option Address
  addressToString : Address → String
  isValidForNetwork : Address → Network → Bool
  networkError : Address → Network → String
  scriptPubkey : Address → Script
  txidFromStr : String → Option Txid
  txidToString : Txid → String

/-- Printing and parsing again gives the same address and the same transaction id. -/
structure Bitcoin.RoundTrip [Bitcoin] : Prop where
  address : ∀ address : Bitcoin.Address,
    Bitcoin.addressFromStr (Bitcoin.addressToString address) = some address
  txid : ∀ txid : Bitcoin.Txid, Bitcoin.txidFromStr (Bitcoin.txidToString txid) = some txid

section Bitcoin

variable [Bitcoin]

abbrev Address := Bitcoin.Address
abbrev Txid := Bitcoin.Txid
abbrev Script := Bitcoin.Script

/-- The address of a text on a network, if the text parses and the network fits. -/
def addressOn (network : Network) (text : String) : Option Address :=
  (Bitcoin.addressFromStr text).filter fun address => Bitcoin.isValidForNetwork address network

/-- `parse_address`; `none` stands for its two panics. -/
def parseAddress (text : String) (network : Network) : Option Address :=
  match Bitcoin.addressFromStr text with
  | none => none
  | some address => if Bitcoin.isValidForNetwork address network then some address else none

theorem parseAddress_eq (text : String) (network : Network) :
    parseAddress text network = addressOn network text := by
  unfold parseAddress addressOn
  cases Bitcoin.addressFromStr text with
  | none => rfl
  | some address => rfl

theorem addressOn_eq_some {network : Network} {text : String} {address : Address} :
    addressOn network text = some address ↔
      Bitcoin.addressFromStr text = some address ∧
        Bitcoin.isValidForNetwork address network = true :=
  Option.filter_eq_some_iff

theorem addressOn_toString (hround : Bitcoin.RoundTrip) {network : Network} {address : Address}
    (hvalid : Bitcoin.isValidForNetwork address network = true) :
    addressOn network (Bitcoin.addressToString address) = some address :=
  addressOn_eq_some.mpr ⟨hround.address address, hvalid⟩

end Bitcoin

/-- The `u64` of an exact sum: an overflow panics when overflow checks are compiled in,
and wraps otherwise. -/
def u64 (overflowChecks : Bool) (exact : ℕ) : Option ℕ :=
  if exact < 2 ^ 64 then some exact
  else if overflowChecks then none
  else some (exact % 2 ^ 64)

/-- `u64` subtraction, with the same two outcomes of an underflow. -/
def u64Sub (overflowChecks : Bool) (minuend subtrahend : ℕ) : Option ℕ :=
  if subtrahend ≤ minuend then some (minuend - subtrahend)
  else if overflowChecks then none
  else some (minuend + 2 ^ 64 - subtrahend)

/-- The saturating cast `f64 as u64`. -/
def asU64 (amount : ℚ) : ℕ := min ⌊amount⌋.toNat (2 ^ 64 - 1)

end FatCrabTrading
