import Mathlib.Algebra.Ring.Nat
import ConnectTokens.Proofs.Numerals
import ConnectTokens.Proofs.Variables

/-!
# Which policy variables give

Variables give a policy if each of them that is set is right on its own and the files for TLS
are both named or neither.  Each setting is then its standard value, or what its own variable
means.  Otherwise the first item that is wrong is the error, with the text that is wrong.

## Main Definitions

* `Settings.IsAddress`, `Settings.IsServers`, `Settings.IsTimeout`, `Settings.IsExpiry`,
  `Settings.IsScheme`: what the texts of the variables mean.
* `Settings.Item`, `Settings.Wrong`: the items of a policy, and what is wrong with one.
* `Settings.FirstWrong`: what is wrong with the first item that is not right.
* `Settings.Sound`, `Settings.Given`: variables that are right, and the policy they give.

## Main Statements

* `Settings.decidedBy_bind`: steps in a row are items in a row.
* `Settings.ofEnvironment_decided`: the policy of variables, or the error.

## Design Notes

An item is wrong or right on its own account, whether or not another one is wrong.  That the
first one counts is said once, of lists of items.
-/

namespace ConnectTokens.Settings

variable {α β : Type} {env env' : Environment} {v : Variable} {e : SettingsError}

/-! ### What texts mean -/

/-- A text writes a socket address, with white space around it. -/
def IsAddress (text : List Char) (a : SocketAddress) : Prop :=
  SocketAddress.ofText? (Text.trim text) = some a

/-- The pieces of a text between its commas write socket addresses, in their order. -/
def IsServers (text : List Char) (servers : List SocketAddress) : Prop :=
  List.Forall₂ IsAddress (text.splitOn ',') servers

/-- A text writes a signed number of 32 bits, with white space around it. -/
def IsTimeout (text : List Char) (timeout : Int32) : Prop :=
  Decimal.WritesInt (Text.trim text) timeout.toInt

/-- What a lifetime is written as, with white space around it. -/
inductive IsExpiry (text : List Char) : Expiry → Prop where
  /-- The word for no end. -/
  | never (isWord : Text.trim text = "never".toList) : IsExpiry text .never
  /-- A signed number of 64 bits that is not negative. -/
  | seconds {count : UInt64} (fits : count.toNat < 2 ^ 63)
      (writes : Decimal.WritesInt (Text.trim text) count.toNat) : IsExpiry text (.seconds count)

/-- A text is the word for a scheme, with white space around it. -/
def IsScheme (text : List Char) : Scheme → Prop
  | .extended => Text.trim text = "extended".toList
  | .sequence => Text.trim text = "sequence".toList

theorem ofText?_trim_eq_some_iff {text : List Char} {a : SocketAddress} :
    SocketAddress.ofText? (Text.trim text) = some a ↔ IsAddress text a :=
  Iff.rfl

theorem int32?_trim_eq_some_iff {text : List Char} {timeout : Int32} :
    Decimal.int32? (Text.trim text) = some timeout ↔ IsTimeout text timeout :=
  Decimal.int32?_eq_some_iff

/-- A text gives a scheme if it is one of the two names, in small letters and with white space
around it or not. -/
theorem scheme?_trim_eq_some_iff {text : List Char} {scheme : Scheme} :
    scheme? (Text.trim text) = some scheme ↔ IsScheme text scheme := by
  have distinct : "extended".toList ≠ "sequence".toList := by decide
  rw [scheme?]
  split
  · next isExtended =>
    cases scheme with
    | extended => exact ⟨fun _ => isExtended, fun _ => rfl⟩
    | sequence =>
        exact ⟨nofun, fun isSequence => absurd (isExtended.symm.trans isSequence) distinct⟩
  split
  · next isSequence =>
    cases scheme with
    | extended =>
        exact ⟨nofun, fun isExtended => absurd (isExtended.symm.trans isSequence) distinct⟩
    | sequence => exact ⟨fun _ => isSequence, fun _ => rfl⟩
  · next notExtended notSequence =>
    cases scheme with
    | extended => exact ⟨nofun, fun isExtended => absurd isExtended notExtended⟩
    | sequence => exact ⟨nofun, fun isSequence => absurd isSequence notSequence⟩

/-- A signed number is a lifetime if it is not negative, and then it is the lifetime of so many
seconds. -/
theorem ofSeconds_toOption_eq_some_iff {count : Int64} {expiry : Expiry} :
    (Expiry.ofSeconds count).toOption = some expiry ↔
      ∃ seconds : UInt64, (seconds.toNat : Int) = count.toInt ∧ expiry = .seconds seconds := by
  have below : count.toInt < 2 ^ 63 := count.toInt_lt
  rw [Expiry.ofSeconds]
  split
  · next positive =>
    have fits : count.toInt.toNat < UInt64.size := by
      rw [UInt64.size]
      omega
    constructor
    · rintro ⟨⟩
      exact ⟨_, by rw [UInt64.toNat_ofNat_of_lt' fits, Int.toNat_of_nonneg positive], rfl⟩
    · rintro ⟨seconds, same, rfl⟩
      rw [← same, Int.toNat_natCast, UInt64.ofNat_toNat]
      rfl
  · next negative =>
    constructor
    · rintro ⟨⟩
    · rintro ⟨seconds, same, -⟩
      omega

/-- A text gives a lifetime if it says that there is no end, or writes a number that is one. -/
theorem expiry?_trim_eq_some_iff {text : List Char} {expiry : Expiry} :
    expiry? (Text.trim text) = some expiry ↔ IsExpiry text expiry := by
  rw [expiry?]
  split
  · next isWord =>
    -- The word is no number, so that the two forms do not meet.
    have noNumber : Decimal.signed? (Text.trim text) = none := by
      rw [isWord]
      decide
    constructor
    · rintro ⟨⟩
      exact .never isWord
    · intro written
      cases written with
      | never => rfl
      | seconds fits writes =>
          rw [Decimal.signed?_eq_some_iff.mpr writes] at noNumber
          cases noNumber
  · next notWord =>
    simp only [Option.bind_eq_some_iff, Decimal.int64?_eq_some_iff, ofSeconds_toOption_eq_some_iff]
    constructor
    · rintro ⟨count, writes, seconds, same, rfl⟩
      have below : count.toInt < 2 ^ 63 := count.toInt_lt
      exact .seconds (by omega) (same ▸ writes)
    · intro written
      cases written with
      | never isWord => exact absurd isWord notWord
      | seconds fits writes =>
          have same := Int64.toInt_ofInt_of_le (by omega) (Int.ofNat_lt.mpr fits)
          exact ⟨_, same.symm ▸ writes, _, same.symm, rfl⟩

/-- A text gives servers if each of its pieces gives one, and they stand in the order of the
pieces. -/
theorem readServers_eq_ok_iff {text : String} {servers : List SocketAddress} :
    readServers text = .ok servers ↔ IsServers text.toList servers := by
  simp only [readServers, mapM_eq_ok_iff, readTrimmed_eq_ok_iff, String.toList_ofList]
  rfl

/-! ### What is wrong with an item -/

/-- The items of a policy. -/
inductive Item where
  | bind
  | servers
  | timeout
  | expiry
  | scheme
  | tls
deriving DecidableEq, Repr

/-- All items, in the order in which they are read. -/
def Item.inOrder : List Item := [bind, servers, timeout, expiry, scheme, tls]

/-- A variable is set to a text that means nothing. -/
def WrongText (env : Environment) (v : Variable) (means : List Char → α → Prop)
    (e : SettingsError) : Prop :=
  ∃ text, env v = some text ∧ (∀ value, ¬ means text.toList value) ∧ e = .invalid v text

/-- A piece between commas is no address, and it is the first one. -/
def WrongPiece (env : Environment) (e : SettingsError) : Prop :=
  ∃ text front piece back, env .serverAddresses = some text ∧
    text.toList.splitOn ',' = front ++ piece :: back ∧
    (∀ good ∈ front, ∃ a, IsAddress good a) ∧ (∀ a, ¬ IsAddress piece a) ∧
    e = .invalid .serverAddresses (String.ofList piece)

/-- One of the files for TLS is named alone, and the other one is missing. -/
def WrongTls (env : Environment) (e : SettingsError) : Prop :=
  ((env .tlsCert).isSome ∧ env .tlsKey = none ∧ e = .invalid .tlsKey "") ∨
    (env .tlsCert = none ∧ (env .tlsKey).isSome ∧ e = .invalid .tlsCert "")

/-- **What is wrong with an item**, by its own variables alone. -/
def Wrong (env : Environment) : Item → SettingsError → Prop
  | .bind => WrongText env .bind IsAddress
  | .servers => WrongPiece env
  | .timeout => WrongText env .timeoutSeconds IsTimeout
  | .expiry => WrongText env .expirySeconds IsExpiry
  | .scheme => WrongText env .nonceScheme IsScheme
  | .tls => WrongTls env

/-- Only a variable that is set can be wrong; one that is not has the standard value. -/
theorem setting_eq_error_iff {standard : α} {read : String → Except SettingsError α} :
    setting env v standard read = .error e ↔ ∃ text, env v = some text ∧ read text = .error e := by
  rw [setting]
  split
  · next given => simp [given]
  · next unset => simp [unset]

theorem readTrimmed_eq_error_iff {value? : List Char → Option α} {text : String} :
    readTrimmed v value? text = .error e ↔
      value? (Text.trim text.toList) = none ∧ e = .invalid v text := by
  rw [readTrimmed]
  split
  · next read => simp [read]
  · next unread => simp [unread, eq_comm]

/-- A variable with a single value is wrong if its text means nothing.  The four of them are one
case, with what a text means as a parameter. -/
theorem wrongText_iff {means : List Char → α → Prop} {value? : List Char → Option α} {standard : α}
    (reads : ∀ {text value}, value? (Text.trim text) = some value ↔ means text value) :
    setting env v standard (readTrimmed v value?) = .error e ↔ WrongText env v means e := by
  simp only [setting_eq_error_iff, readTrimmed_eq_error_iff, WrongText, ← reads,
    Option.eq_none_iff_forall_ne_some, ne_eq]

theorem bind_eq_error_iff {ε : Type} {first : Except ε α} {next : α → Except ε β} {cause : ε} :
    (first >>= next) = .error cause ↔
      first = .error cause ∨ ∃ a, first = .ok a ∧ next a = .error cause := by
  cases first with
  | error e =>
      show Except.error e = _ ↔ _
      simp
  | ok a =>
      show next a = _ ↔ _
      simp

/-- A list is refused for the first of its items that is, with the cause of that item. -/
theorem mapM_eq_error_iff {ε : Type} {read : α → Except ε β} {items : List α} {cause : ε} :
    items.mapM read = .error cause ↔
      ∃ front item back, items = front ++ item :: back ∧
        (∀ good ∈ front, ∃ value, read good = .ok value) ∧ read item = .error cause := by
  induction items with
  | nil =>
      rw [List.mapM_nil]
      constructor
      · rintro ⟨⟩
      · rintro ⟨front, item, back, none, -⟩
        cases front <;> cases none
  | cons item rest ih =>
      simp only [List.mapM_cons, bind_eq_error_iff, ih]
      constructor
      · rintro (refused | ⟨value, good, ⟨front, bad, back, rfl, others, refused⟩ | ⟨_, -, ⟨⟩⟩⟩)
        · exact ⟨[], item, rest, rfl, nofun, refused⟩
        · refine ⟨item :: front, bad, back, rfl, ?_, refused⟩
          exact List.forall_mem_cons.mpr ⟨⟨value, good⟩, others⟩
      · rintro ⟨front, bad, back, whole, others, refused⟩
        cases front with
        | nil =>
            cases whole
            exact .inl refused
        | cons _ front =>
            cases whole
            obtain ⟨⟨value, good⟩, others⟩ := List.forall_mem_cons.mp others
            exact .inr ⟨value, good, .inl ⟨front, bad, back, rfl, others, refused⟩⟩

/-- Servers are refused for the first piece that is no address, and that piece is told as it was
written. -/
theorem wrongPiece_iff {standard : List SocketAddress} :
    setting env .serverAddresses standard readServers = .error e ↔ WrongPiece env e := by
  simp only [setting_eq_error_iff, readServers, mapM_eq_error_iff, readTrimmed_eq_error_iff,
    readTrimmed_eq_ok_iff, String.toList_ofList, ← Option.not_isSome_iff_eq_none,
    Option.isSome_iff_exists, not_exists, WrongPiece, IsAddress]
  constructor
  · rintro ⟨text, set, front, piece, back, cut, good, bad, rfl⟩
    exact ⟨text, front, piece, back, set, cut, good, bad, rfl⟩
  · rintro ⟨text, front, piece, back, set, cut, good, bad, rfl⟩
    exact ⟨text, set, front, piece, back, cut, good, bad, rfl⟩

/-- The variables for TLS are wrong if one of the two is set without the other, and the error
names the one that is missing. -/
theorem wrongTls_iff : readTls env = .error e ↔ WrongTls env e := by
  rw [readTls, WrongTls]
  cases env .tlsCert <;> cases env .tlsKey <;> simp [eq_comm]

/-! ### The first item that is wrong -/

/-- What is wrong with the first of some items that is not right. -/
def FirstWrong (env : Environment) (items : List Item) (e : SettingsError) : Prop :=
  ∃ front item back, items = front ++ item :: back ∧
    (∀ earlier ∈ front, ∀ e', ¬ Wrong env earlier e') ∧ Wrong env item e

/-- A step is refused for what is wrong with the first of some items that is not right, and for
nothing else. -/
def DecidedBy (env : Environment) (items : List Item) (outcome : Except SettingsError α) : Prop :=
  ∀ e, outcome = .error e ↔ FirstWrong env items e

/-- The first wrong item is the first item, if it is wrong, and the first wrong one of the others
if it is right. -/
theorem firstWrong_cons_iff {item : Item} {items : List Item} :
    FirstWrong env (item :: items) e ↔
      Wrong env item e ∨ (∀ e', ¬ Wrong env item e') ∧ FirstWrong env items e := by
  constructor
  · rintro ⟨front, bad, back, whole, right, wrong⟩
    cases front with
    | nil =>
        cases whole
        exact .inl wrong
    | cons _ front =>
        cases whole
        obtain ⟨first, others⟩ := List.forall_mem_cons.mp right
        exact .inr ⟨first, front, bad, back, rfl, others, wrong⟩
  · rintro (wrong | ⟨first, front, bad, back, rfl, others, wrong⟩)
    · exact ⟨[], item, items, rfl, nofun, wrong⟩
    · exact ⟨item :: front, bad, back, rfl, List.forall_mem_cons.mpr ⟨first, others⟩, wrong⟩

theorem not_firstWrong_nil : ¬ FirstWrong env [] e := by
  rintro ⟨front, item, back, none, -⟩
  cases front <;> cases none

theorem forall_not_firstWrong_iff {items : List Item} :
    (∀ e, ¬ FirstWrong env items e) ↔ ∀ item ∈ items, ∀ e, ¬ Wrong env item e := by
  induction items with
  | nil => exact ⟨fun _ _ => nofun, fun _ _ => not_firstWrong_nil⟩
  | cons item items ih =>
      simp only [firstWrong_cons_iff, not_or, List.forall_mem_cons, ← ih]
      constructor
      · intro right
        exact ⟨fun e => (right e).1, fun e firstWrong =>
          (right e).2 ⟨fun e => (right e).1, firstWrong⟩⟩
      · rintro ⟨first, others⟩ e
        exact ⟨first e, fun wrong => others e wrong.2⟩

theorem exists_ok_iff {ε : Type} {outcome : Except ε α} :
    (∃ a, outcome = .ok a) ↔ ∀ e, outcome ≠ .error e := by
  cases outcome <;> simp

theorem decidedBy_ok (a : α) : DecidedBy env [] (.ok a) := by
  intro e
  exact ⟨nofun, fun firstWrong => absurd firstWrong not_firstWrong_nil⟩

/-- **Steps in a row are decided by items in a row.**  What is behind a step counts only if the
step has an outcome, which is to say that its item is right. -/
theorem decidedBy_bind {item : Item} {items : List Item} {first : Except SettingsError α}
    {next : α → Except SettingsError β} (wrong_iff : ∀ e, first = .error e ↔ Wrong env item e)
    (behind : ∀ a, DecidedBy env items (next a)) :
    DecidedBy env (item :: items) (first >>= next) := by
  intro e
  rw [bind_eq_error_iff, firstWrong_cons_iff, wrong_iff]
  apply or_congr_right
  have right_iff : (∃ a, first = .ok a) ↔ ∀ e', ¬ Wrong env item e' := by
    simp only [exists_ok_iff, ne_eq, wrong_iff]
  rw [← right_iff]
  constructor
  · rintro ⟨a, passes, refused⟩
    exact ⟨⟨a, passes⟩, (behind a e).mp refused⟩
  · rintro ⟨⟨a, passes⟩, firstWrong⟩
    exact ⟨a, passes, (behind a e).mpr firstWrong⟩

/-- The reading of a policy is decided by all items, in the order in which they are read, by one
step for each. -/
theorem decidedBy_ofEnvironment (env : Environment) :
    DecidedBy env Item.inOrder (ofEnvironment env) := by
  refine decidedBy_bind (fun _ => wrongText_iff ofText?_trim_eq_some_iff) fun _ => ?_
  refine decidedBy_bind (fun _ => wrongPiece_iff) fun _ => ?_
  refine decidedBy_bind (fun _ => wrongText_iff int32?_trim_eq_some_iff) fun _ => ?_
  refine decidedBy_bind (fun _ => wrongText_iff expiry?_trim_eq_some_iff) fun _ => ?_
  refine decidedBy_bind (fun _ => wrongText_iff scheme?_trim_eq_some_iff) fun _ => ?_
  refine decidedBy_bind (fun _ => wrongTls_iff) fun _ => ?_
  exact decidedBy_ok _

/-! ### Variables that are right -/

/-- A variable that is set is set to a text that means something. -/
def Allowed (env : Environment) (v : Variable) (means : List Char → α → Prop) : Prop :=
  ∀ text, env v = some text → ∃ value, means text.toList value

/-- **Each variable that is set is right on its own**, and the files for TLS are both named or
neither. -/
structure Sound (env : Environment) : Prop where
  bind : Allowed env .bind IsAddress
  /-- Every piece between commas is an address. -/
  servers : ∀ text, env .serverAddresses = some text →
    ∀ piece ∈ text.toList.splitOn ',', ∃ a, IsAddress piece a
  timeout : Allowed env .timeoutSeconds IsTimeout
  expiry : Allowed env .expirySeconds IsExpiry
  scheme : Allowed env .nonceScheme IsScheme
  tls : env .tlsCert = none ↔ env .tlsKey = none

theorem allowed_iff {means : List Char → α → Prop} :
    Allowed env v means ↔ ∀ e, ¬ WrongText env v means e := by
  constructor
  · rintro allowed e ⟨text, set, bad, -⟩
    obtain ⟨value, isValue⟩ := allowed text set
    exact bad value isValue
  · intro right text set
    by_contra bad
    exact right _ ⟨text, set, not_exists.mp bad, rfl⟩

theorem forall_exists_of_forall₂ {related : α → β → Prop} {items : List α} {values : List β}
    (each : List.Forall₂ related items values) : ∀ item ∈ items, ∃ value, related item value := by
  induction each with
  | nil => exact nofun
  | cons first _ ih => exact List.forall_mem_cons.mpr ⟨⟨_, first⟩, ih⟩

/-- Among pieces of which one is no address there is a first one, so that the text has an error to
show for it. -/
theorem pieces_iff :
    (∀ text, env .serverAddresses = some text →
      ∀ piece ∈ text.toList.splitOn ',', ∃ a, IsAddress piece a) ↔ ∀ e, ¬ WrongPiece env e := by
  constructor
  · rintro good e ⟨text, front, piece, back, set, cut, -, bad, -⟩
    obtain ⟨a, isAddress⟩ := good text set piece (by simp [cut])
    exact bad a isAddress
  · intro right text set
    have read : ∃ servers, setting env .serverAddresses [] readServers = .ok servers :=
      exists_ok_iff.mpr fun e refused => right e (wrongPiece_iff.mp refused)
    obtain ⟨servers, read⟩ := read
    rw [setting, set] at read
    exact forall_exists_of_forall₂ (readServers_eq_ok_iff.mp read)

theorem tls_iff : (env .tlsCert = none ↔ env .tlsKey = none) ↔ ∀ e, ¬ WrongTls env e := by
  simp only [WrongTls]
  cases env .tlsCert <;> cases env .tlsKey <;> simp

/-- Variables are right if no item is wrong.  What the left side says of texts is here led back to
the items. -/
theorem sound_iff : Sound env ↔ ∀ item ∈ Item.inOrder, ∀ e, ¬ Wrong env item e := by
  simp only [Item.inOrder, List.forall_mem_cons, Wrong, ← allowed_iff, ← pieces_iff, ← tls_iff]
  constructor
  · rintro ⟨bind, servers, timeout, expiry, scheme, tls⟩
    exact ⟨bind, servers, timeout, expiry, scheme, tls, nofun⟩
  · rintro ⟨bind, servers, timeout, expiry, scheme, tls, -⟩
    exact ⟨bind, servers, timeout, expiry, scheme, tls⟩

/-! ### The policy -/

/-- A setting is its standard value while its variable is unset, and otherwise what the text
of the variable means. -/
def IsSetting (env : Environment) (v : Variable) (means : List Char → α → Prop)
    (standard value : α) : Prop :=
  (env v = none ∧ value = standard) ∨ ∃ text, env v = some text ∧ means text.toList value

/-- **A policy is what variables give**: each setting is what its own variable says. -/
structure Given (env : Environment) (settings : Settings) : Prop where
  bind : IsSetting env .bind IsAddress standard.bind settings.bind
  servers : IsSetting env .serverAddresses IsServers standard.servers settings.servers
  timeout : IsSetting env .timeoutSeconds IsTimeout standard.timeout settings.timeout
  expiry : IsSetting env .expirySeconds IsExpiry standard.expiry settings.expiry
  scheme : IsSetting env .nonceScheme IsScheme standard.scheme settings.scheme
  /-- The names of the files are taken as they are. -/
  cert : env .tlsCert = settings.tls.map TlsFiles.cert
  key : env .tlsKey = settings.tls.map TlsFiles.key

/-- A setting is the value that the text of its variable means, or the standard one if there is no
text. -/
theorem isSetting_iff {means : List Char → α → Prop} {value? : List Char → Option α}
    {standard value : α}
    (reads : ∀ {text value}, value? (Text.trim text) = some value ↔ means text value) :
    setting env v standard (readTrimmed v value?) = .ok value ↔
      IsSetting env v means standard value := by
  simp only [setting_eq_ok_iff, readTrimmed_eq_ok_iff, reads, IsSetting]

theorem isServersSetting_iff {standard servers : List SocketAddress} :
    setting env v standard readServers = .ok servers ↔
      IsSetting env v IsServers standard servers := by
  simp only [setting_eq_ok_iff, readServers_eq_ok_iff, IsSetting]

/-- The policy names the two files if the variables do, and names none if neither does. -/
theorem readTls_eq_ok_iff {tls : Option TlsFiles} :
    readTls env = .ok tls ↔
      env .tlsCert = tls.map TlsFiles.cert ∧ env .tlsKey = tls.map TlsFiles.key := by
  rw [readTls]
  cases env .tlsCert <;> cases env .tlsKey <;> cases tls <;> simp [TlsFiles.ext_iff]

/-- Variables give a policy if it is the one that each of them says, and so they give one policy
at most. -/
theorem ofEnvironment_eq_ok_iff_given {settings : Settings} :
    ofEnvironment env = .ok settings ↔ Given env settings := by
  rw [ofEnvironment_eq_ok_iff, isSetting_iff ofText?_trim_eq_some_iff, isServersSetting_iff,
    isSetting_iff int32?_trim_eq_some_iff, isSetting_iff expiry?_trim_eq_some_iff,
    isSetting_iff scheme?_trim_eq_some_iff, readTls_eq_ok_iff]
  constructor
  · rintro ⟨bind, servers, timeout, expiry, scheme, cert, key⟩
    exact ⟨bind, servers, timeout, expiry, scheme, cert, key⟩
  · rintro ⟨bind, servers, timeout, expiry, scheme, cert, key⟩
    exact ⟨bind, servers, timeout, expiry, scheme, cert, key⟩

/-! ### Items on their own -/

/-- The variables of an item. -/
def Item.variables : Item → List Variable
  | bind => [.bind]
  | servers => [.serverAddresses]
  | timeout => [.timeoutSeconds]
  | expiry => [.expirySeconds]
  | scheme => [.nonceScheme]
  | tls => [.tlsCert, .tlsKey]

/-- Two policies have the same setting for an item. -/
def Item.Same (settings settings' : Settings) : Item → Prop
  | bind => settings.bind = settings'.bind
  | servers => settings.servers = settings'.servers
  | timeout => settings.timeout = settings'.timeout
  | expiry => settings.expiry = settings'.expiry
  | scheme => settings.scheme = settings'.scheme
  | tls => settings.tls = settings'.tls

/-- A setting is read from its own variable alone, and a text has one meaning. -/
theorem eq_of_setting {standard value value' : α} {read : String → Except SettingsError α}
    (same : env v = env' v) (isValue : setting env v standard read = .ok value)
    (isValue' : setting env' v standard read = .ok value') : value = value' := by
  rw [setting, ← same] at isValue'
  exact Except.ok.inj (isValue.symm.trans isValue')

/-- **An item depends on its own variables alone.**  Other variables may decide whether there is a
policy, but not what this item of it is. -/
theorem same_of_variables {settings settings' : Settings}
    (given : ofEnvironment env = .ok settings) (given' : ofEnvironment env' = .ok settings')
    {item : Item} (same : ∀ v ∈ item.variables, env v = env' v) : item.Same settings settings' := by
  obtain ⟨bind, servers, timeout, expiry, scheme, tls⟩ := ofEnvironment_eq_ok_iff.mp given
  obtain ⟨bind', servers', timeout', expiry', scheme', tls'⟩ := ofEnvironment_eq_ok_iff.mp given'
  cases item with
  | bind => exact eq_of_setting (same _ (by decide)) bind bind'
  | servers => exact eq_of_setting (same _ (by decide)) servers servers'
  | timeout => exact eq_of_setting (same _ (by decide)) timeout timeout'
  | expiry => exact eq_of_setting (same _ (by decide)) expiry expiry'
  | scheme => exact eq_of_setting (same _ (by decide)) scheme scheme'
  | tls =>
      rw [readTls, ← same .tlsCert (by decide), ← same .tlsKey (by decide)] at tls'
      exact Except.ok.inj (tls.symm.trans tls')

/-- **Which policy variables give.**  They give one if each that is set is right on its own,
and then each setting is what its own variable says, whatever the others are.  Otherwise they
give what is wrong with the first item that is not right. -/
theorem ofEnvironment_decided (env : Environment) :
    ((∃ settings, ofEnvironment env = .ok settings) ↔ Sound env) ∧
      (∀ settings, ofEnvironment env = .ok settings ↔ Given env settings) ∧
      (∀ e, ofEnvironment env = .error e ↔ FirstWrong env Item.inOrder e) ∧
      ∀ env' settings settings', ofEnvironment env = .ok settings →
        ofEnvironment env' = .ok settings' → ∀ item : Item,
          (∀ v ∈ item.variables, env v = env' v) → item.Same settings settings' := by
  refine ⟨?_, fun _ => ofEnvironment_eq_ok_iff_given, decidedBy_ofEnvironment env, ?_⟩
  · rw [sound_iff, ← forall_not_firstWrong_iff, exists_ok_iff]
    exact forall_congr' fun e => not_congr (decidedBy_ofEnvironment env e)
  · intro env' settings settings' given given' item same
    exact same_of_variables given given' same

/-- Variables for tokens that never expire, with nonces of some scheme. -/
def endlessVariables (scheme : String) : Environment
  | .expirySeconds => some "\tnever "
  | .nonceScheme => some scheme
  | _ => none

/-- Variables of which two are wrong. -/
def brokenVariables : Environment
  | .timeoutSeconds => some "5 s"
  | .nonceScheme => some "both"
  | _ => none

/-- The scheme does not change the lifetime, and of two wrong variables the first one counts. -/
theorem ofEnvironment_decided_endless :
    (∃ settings settings', ofEnvironment (endlessVariables "extended") = .ok settings ∧
      ofEnvironment (endlessVariables "sequence") = .ok settings' ∧
      settings.expiry = .never ∧ settings.expiry = settings'.expiry) ∧
      FirstWrong brokenVariables Item.inOrder (.invalid .timeoutSeconds "5 s") := by
  obtain ⟨-, -, -, onTheirOwn⟩ := ofEnvironment_decided (endlessVariables "extended")
  obtain ⟨-, -, wrong_iff, -⟩ := ofEnvironment_decided brokenVariables
  have extended : ofEnvironment (endlessVariables "extended") =
      .ok { standard with expiry := .never } := by
    decide +kernel
  have sequence : ofEnvironment (endlessVariables "sequence") =
      .ok { standard with expiry := .never, scheme := .sequence } := by
    decide +kernel
  refine ⟨⟨_, _, extended, sequence, rfl, ?_⟩, (wrong_iff _).mp (by decide +kernel)⟩
  exact onTheirOwn _ _ _ extended sequence .expiry (by decide)

end ConnectTokens.Settings
