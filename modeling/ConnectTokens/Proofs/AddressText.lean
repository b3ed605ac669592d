import ConnectTokens.Proofs.Numerals
import ConnectTokens.SocketAddress.Grammar
import ConnectTokens.SocketAddress.Printer

/-!
# Written addresses read back

The written form of a socket address reads back as that address, but for the flow
information, which is not written.

## Main Definitions

* `SocketAddress.flow`: the flow information of an address.
* `SocketAddress.groupOctets`: the two octets of a group.

## Main Statements

* `SocketAddress.splitGap?_colonGroups_append`: groups with colons between them have no
  gap, so that the gap that is found is the one that was left.
* `SocketAddress.eq_append_longestGap`: what is left out are groups of zeros.
* `SocketAddress.v6Octets?_v6Host`: IPv6 hosts, in each of the three forms.
* `SocketAddress.ofText?_chars`: whole addresses.
-/

namespace ConnectTokens

/-- What is written piece by piece is read piece by piece, as soon as every single piece reads
back. -/
theorem mapM_map_eq_some {α β γ : Type} {read : β → Option γ} {written : α → β} {value : α → γ}
    {l : List α} (reads : ∀ a ∈ l, read (written a) = some (value a)) :
    (l.map written).mapM read = some (l.map value) := by
  induction l with
  | nil => rfl
  | cons a rest ih =>
      obtain ⟨first, others⟩ := List.forall_mem_cons.mp reads
      simp [first, ih others]

/-- What stands in pieces with a mark between them stands in a piece, or is the mark. -/
theorem eq_or_mem_of_mem_intercalate {α : Type} {mark c : α} {pieces : List (List α)}
    (present : c ∈ List.intercalate [mark] pieces) : c = mark ∨ ∃ piece ∈ pieces, c ∈ piece := by
  induction pieces with
  | nil => cases present
  | cons piece rest ih =>
      cases rest with
      | nil =>
          rw [List.intercalate_singleton] at present
          exact .inr ⟨piece, List.mem_cons_self, present⟩
      | cons next rest =>
          rw [List.intercalate_cons_cons, List.mem_append, List.mem_append,
            List.mem_singleton] at present
          obtain (inPiece | isMark) | later := present
          · exact .inr ⟨piece, List.mem_cons_self, inPiece⟩
          · exact .inl isMark
          · obtain isMark | ⟨other, isOther, inOther⟩ := ih later
            · exact .inl isMark
            · exact .inr ⟨other, List.mem_cons_of_mem _ isOther, inOther⟩

namespace SocketAddress

/-- The flow information of an address. -/
def flow : SocketAddress → UInt32
  | v4 .. => 0
  | v6 _ _ flow _ => flow

/-! ### IPv4 hosts -/

theorem octet?_toDigits (o : UInt8) : octet? (Nat.toDigits 10 o.toNat) = some o := by
  have all : ∀ n : Fin 256, octet? (Nat.toDigits 10 n.val) = some (UInt8.ofNat n.val) := by
    decide +kernel
  rw [all ⟨o.toNat, o.toNat_lt⟩, UInt8.ofNat_toNat]

/-- An IPv4 host reads back: it splits at its dots, and no number of it holds one. -/
theorem v4Octets?_v4Host (octets : Block 4) : v4Octets? (v4Host octets.toList) = some octets := by
  have nonempty : octets.toList ≠ [] := by
    intro empty
    have := octets.length_toList
    rw [empty] at this
    cases this
  have parts : (v4Host octets.toList).splitOn '.' =
      octets.toList.map fun o => Nat.toDigits 10 o.toNat := by
    refine List.splitOn_intercalate '.' ?_ (by simpa using nonempty)
    simp only [List.forall_mem_map]
    exact fun o _ => Decimal.not_mem_toDigits rfl _
  rw [v4Octets?, parts, mapM_map_eq_some fun o _ => octet?_toDigits o]
  simp

/-- An IPv4 host consists of digits and dots, which is why it is told from a group and from an
IPv6 host. -/
theorem isDigit_or_eq_of_mem_v4Host {octets : Bytes} {c : Char} (present : c ∈ v4Host octets) :
    c.isDigit = true ∨ c = '.' := by
  obtain isDot | ⟨digits, isOctet, inOctet⟩ := eq_or_mem_of_mem_intercalate present
  · exact .inr isDot
  · obtain ⟨o, -, rfl⟩ := List.mem_map.mp isOctet
    exact .inl (Nat.isDigit_of_mem_toDigits (by decide) (by decide) inOctet)

theorem colon_not_mem_v4Host (octets : Bytes) : ':' ∉ v4Host octets := fun present =>
  (isDigit_or_eq_of_mem_v4Host present).elim (by decide) (by decide)

/-- An IPv4 host is no group, since it has a dot.  A reader that tries groups first comes to the
host in the end. -/
theorem group?_v4Host (octets : Block 4) : group? (v4Host octets.toList) = none := by
  have hasDot : '.' ∈ v4Host octets.toList := by
    match octets with
    | ⟨a :: b :: rest, _⟩ => simp [v4Host]
  rw [group?]
  split
  · cases read : Hex.natural? (v4Host octets.toList) with
    | none => rfl
    | some n => exact absurd (Hex.isSome_digit?_of_natural? read '.' hasDot) (by decide)
  · rfl

/-! ### Groups -/

/-- The two octets of a group, the higher one first. -/
def groupOctets (n : Nat) : Bytes := [UInt8.ofNat (n / 256), UInt8.ofNat n]

theorem group?_digits {n : Nat} (fits : n < 65536) :
    group? (Hex.digits n) = some (groupOctets n) := by
  have short : (Hex.digits n).length ≤ 4 :=
    (Nat.length_toDigits_le_iff (by omega) (by omega)).mpr fits
  rw [group?, if_pos short, Hex.natural?_digits]
  rfl

/-- Two octets make a group, the higher one first, and come out of it in that order. -/
theorem groupOctets_pair (high low : UInt8) :
    groupOctets (high.toNat * 256 + low.toNat) = [high, low] := by
  have := high.toNat_lt
  have := low.toNat_lt
  have first : UInt8.ofNat ((high.toNat * 256 + low.toNat) / 256) = high :=
    ofNat_eq_of_mod (by omega)
  have second : UInt8.ofNat (high.toNat * 256 + low.toNat) = low := ofNat_eq_of_mod (by omega)
  rw [groupOctets, first, second]

/-- The groups of an even number of octets hold these octets.  An odd one at the end would be
lost. -/
theorem flatMap_groupsOf {octets : Bytes} (even : octets.length % 2 = 0) :
    (groupsOf octets).flatMap groupOctets = octets := by
  fun_induction groupsOf octets with
  | case1 high low rest ih =>
      have evenRest : rest.length % 2 = 0 := by
        rw [List.length_cons, List.length_cons] at even
        omega
      rw [List.flatMap_cons, groupOctets_pair, ih evenRest]
      rfl
  | case2 octets short =>
      match octets with
      | [] => rfl
      | [_] => cases even
      | high :: low :: rest => exact absurd rfl (short high low rest)

theorem lt_of_mem_groupsOf (octets : Bytes) : ∀ n ∈ groupsOf octets, n < 65536 := by
  fun_induction groupsOf octets with
  | case1 high low rest ih =>
      have := high.toNat_lt
      have := low.toNat_lt
      exact List.forall_mem_cons.mpr ⟨by omega, ih⟩
  | case2 => exact List.forall_mem_nil _

theorem length_flatMap_groupOctets (groups : List Nat) :
    (groups.flatMap groupOctets).length = 2 * groups.length := by
  induction groups with
  | nil => rfl
  | cons n rest ih =>
      rw [List.flatMap_cons, List.length_append, ih, List.length_cons, groupOctets]
      simp only [List.length_cons, List.length_nil]
      omega

/-! ### Groups with colons between them -/

theorem colonGroups_cons_cons (n k : Nat) (rest : List Nat) :
    colonGroups (n :: k :: rest) = Hex.digits n ++ ':' :: colonGroups (k :: rest) := by
  simp only [colonGroups, List.map_cons, List.intercalate_cons_cons, List.append_assoc,
    List.singleton_append]

theorem colonGroups_singleton (n : Nat) : colonGroups [n] = Hex.digits n :=
  List.intercalate_singleton

/-- Groups start with a digit, so that a colon in front of them is followed by none. -/
theorem exists_colonGroups_cons (n : Nat) (rest : List Nat) :
    ∃ c text, c ≠ ':' ∧ colonGroups (n :: rest) = c :: text := by
  obtain ⟨c, text, digits⟩ := List.exists_cons_of_ne_nil (Hex.digits_ne_nil n)
  have noColon : c ≠ ':' := by
    rintro rfl
    exact Hex.not_mem_digits (c := ':') (by decide) n (digits ▸ List.mem_cons_self)
  cases rest with
  | nil => exact ⟨c, text, noColon, by rw [colonGroups_singleton, digits]⟩
  | cons k rest => exact ⟨c, _, noColon, by rw [colonGroups_cons_cons, digits]; rfl⟩

/-- Groups split at their colons into their digits.  Without any group there would be one empty
piece, which is why there has to be one. -/
theorem splitOn_colonGroups {groups : List Nat} (nonempty : groups ≠ []) :
    (colonGroups groups).splitOn ':' = groups.map Hex.digits := by
  refine List.splitOn_intercalate ':' ?_ (by simpa using nonempty)
  simp only [List.forall_mem_map]
  exact fun n _ => Hex.not_mem_digits (by decide) n

section Groups

variable {groups : List Nat}

theorem colonGroups_ne_nil (nonempty : groups ≠ []) : colonGroups groups ≠ [] := by
  obtain ⟨n, rest, rfl⟩ := List.exists_cons_of_ne_nil nonempty
  obtain ⟨c, text, -, starts⟩ := exists_colonGroups_cons n rest
  rw [starts]
  exact List.cons_ne_nil c text

/-- Groups that fit two octets read back from their text, each as its octets; no groups at all
read back from the empty text. -/
theorem groups?_colonGroups (fits : ∀ n ∈ groups, n < 65536) :
    groups? (colonGroups groups) = some (groups.flatMap groupOctets) := by
  cases groups with
  | nil => rfl
  | cons n rest =>
      have nonempty : n :: rest ≠ [] := List.cons_ne_nil n rest
      rw [groups?, if_neg (colonGroups_ne_nil nonempty), splitOn_colonGroups nonempty,
        mapM_map_eq_some fun n isGroup => group?_digits (fits n isGroup), List.flatMap_def]
      rfl

/-- Groups read the same where an IPv4 host may stand last, for the last of them has no dot. -/
theorem lastGroups?_colonGroups (fits : ∀ n ∈ groups, n < 65536) :
    lastGroups? (colonGroups groups) = some (groups.flatMap groupOctets) := by
  obtain rfl | ⟨front, n, rfl⟩ := List.eq_nil_or_concat groups
  · rfl
  · simp only [List.concat_eq_append] at fits ⊢
    obtain ⟨fitsFront, fitsLast⟩ := List.forall_mem_append.mp fits
    have nonempty : front ++ [n] ≠ [] := by simp
    have last : lastGroup? (Hex.digits n) = some (groupOctets n) := by
      rw [lastGroup?, group?_digits (fitsLast n List.mem_cons_self)]
    have others : (front.map Hex.digits).mapM group? = some (front.map groupOctets) :=
      mapM_map_eq_some fun n isGroup => group?_digits (fitsFront n isGroup)
    rw [lastGroups?, if_neg (colonGroups_ne_nil nonempty), splitOn_colonGroups nonempty,
      List.map_append, List.map_singleton]
    simp only [List.dropLast_concat, List.getLastD_concat, others, last]
    simp [List.flatMap_def]

end Groups

/-! ### Gaps -/

/-- A text without a colon in front moves the gap no farther than behind it. -/
theorem splitGap?_append {text : List Char} (plain : ':' ∉ text) (rest : List Char) :
    splitGap? (text ++ rest) = (splitGap? rest).map fun (head, tail) => (text ++ head, tail) := by
  induction text with
  | nil => simp
  | cons c text ih =>
      obtain ⟨noColon, plainText⟩ := not_or.mp (mt List.mem_cons.mpr plain)
      rw [List.cons_append, splitGap?, ih plainText, Option.map_map]
      · rfl
      · rintro _ rfl
        exact absurd rfl noColon

/-- A single colon is no gap: the search goes on behind it and keeps it. -/
theorem splitGap?_colon {c : Char} (noColon : c ≠ ':') (rest : List Char) :
    splitGap? (':' :: c :: rest) =
      (splitGap? (c :: rest)).map fun (head, tail) => (':' :: head, tail) := by
  rw [splitGap?]
  rintro _ - ⟨⟩
  exact noColon rfl

/-- **Groups have no gap**, and the colon of a gap behind them is none of theirs.  So the first
gap of a text is the one that was written. -/
theorem splitGap?_colonGroups_append (groups : List Nat) (rest : List Char) :
    splitGap? (colonGroups groups ++ rest) =
      (splitGap? rest).map fun (head, tail) => (colonGroups groups ++ head, tail) := by
  induction groups with
  | nil => simp [colonGroups]
  | cons n groups ih =>
      have plain : ':' ∉ Hex.digits n := Hex.not_mem_digits (by decide) n
      cases groups with
      | nil => rw [colonGroups_singleton, splitGap?_append plain]
      | cons k groups =>
          obtain ⟨c, text, noColon, starts⟩ := exists_colonGroups_cons k groups
          rw [colonGroups_cons_cons, List.append_assoc, splitGap?_append plain, List.cons_append,
            starts, List.cons_append, splitGap?_colon noColon, ← List.cons_append, ← starts, ih,
            Option.map_map, Option.map_map]
          simp [Function.comp_def]

/-- The groups at a place where there is a gap are zeros, as many as the gap is long. -/
theorem eq_replicate_append_drop (groups : List Nat) :
    groups = List.replicate (groups.takeWhile (· = 0)).length 0 ++
      groups.drop (groups.takeWhile (· = 0)).length := by
  have zeros : groups.takeWhile (· = 0) =
      List.replicate (groups.takeWhile (· = 0)).length 0 := by
    refine List.eq_replicate_iff.mpr ⟨rfl, fun n isZero => ?_⟩
    exact of_decide_eq_true (List.all_eq_true.mp List.all_takeWhile n isZero)
  have parts : groups.takeWhile (· = 0) ++ groups.dropWhile (· = 0) = groups :=
    List.takeWhile_append_dropWhile
  have behind : groups.drop (groups.takeWhile (· = 0)).length = groups.dropWhile (· = 0) := by
    conv => enter [1, 2]; rw [← parts]
    exact List.drop_left
  rw [behind, ← zeros, parts]

/-- The gap that is left out is a gap at its place, unless there is none.  That it is the longest
one does not matter to reading. -/
theorem longestGap_eq (groups : List Nat) :
    (longestGap groups).2 = 0 ∨ (longestGap groups).2 = gapAt groups (longestGap groups).1 := by
  -- Each place that is taken is taken with the gap that is there.
  refine List.foldlRecOn
    (motive := fun best : Nat × Nat => best.2 = 0 ∨ best.2 = gapAt groups best.1)
    _ _ (.inl rfl) fun best known start _ => ?_
  split
  · exact .inr rfl
  · exact known

/-- **What is left out are groups of zeros.**  The groups in front, the zeros and the groups
behind make the whole again. -/
theorem eq_append_longestGap {groups : List Nat} (gap : 0 < (longestGap groups).2) :
    groups = groups.take (longestGap groups).1 ++
      (List.replicate (longestGap groups).2 0 ++
        groups.drop ((longestGap groups).1 + (longestGap groups).2)) := by
  obtain none | size := longestGap_eq groups
  · omega
  · have zeros := eq_replicate_append_drop (groups.drop (longestGap groups).1)
    rw [← gapAt, ← size, List.drop_drop] at zeros
    rw [← zeros, List.take_append_drop]

/-! ### IPv6 hosts -/

/-- What is written behind the gap of a mapped host: one group, and an IPv4 host that stands for
the last two. -/
theorem lastGroups?_mapped (octets : Block 4) :
    lastGroups? ("ffff:".toList ++ v4Host octets.toList) =
      some ([0xFF, 0xFF] ++ octets.toList) := by
  have noColon := colon_not_mem_v4Host octets.toList
  have parts : ("ffff:".toList ++ v4Host octets.toList).splitOn ':' =
      ["ffff".toList, v4Host octets.toList] := by
    have joined : "ffff:".toList ++ v4Host octets.toList =
        List.intercalate [':'] ["ffff".toList, v4Host octets.toList] := by
      rw [List.intercalate_cons_cons, List.intercalate_singleton]
      rfl
    rw [joined]
    refine List.splitOn_intercalate ':' ?_ (List.cons_ne_nil _ _)
    exact List.forall_mem_cons.mpr ⟨by decide, List.forall_mem_singleton.mpr noColon⟩
  have front : group? ['f', 'f', 'f', 'f'] = some [0xFF, 0xFF] := by decide
  rw [lastGroups?, if_neg (by simp), parts]
  simp [front, lastGroup?, group?_v4Host, v4Octets?_v4Host]

/-- A mapped host reads back, and as a host of IPv6: its octets are all there, the zeros in the
gap included. -/
theorem v6Octets?_mapped {octets : Block 16} (mapped : octets.toList.take 12 = mappedFront) :
    v6Octets? ("::ffff:".toList ++ v4Host (octets.toList.drop 12)) = some octets := by
  have gap : splitGap? ("::ffff:".toList ++ v4Host (octets.toList.drop 12)) =
      some ([], "ffff:".toList ++ v4Host (octets.toList.drop 12)) := rfl
  have behind := lastGroups?_mapped ⟨octets.toList.drop 12, by simp⟩
  have whole : mappedFront ++ octets.toList.drop 12 = octets.toList := by
    rw [← mapped, List.take_append_drop]
  have written : List.replicate 10 (0 : UInt8) ++ ([0xFF, 0xFF] ++ octets.toList.drop 12) =
      octets.toList := whole
  have size : ([0xFF, 0xFF] ++ octets.toList.drop 12).length = 6 := by simp
  simp only [v6Octets?, gap, groups?, if_pos, behind, Option.bind_eq_bind, Option.bind_some, size,
    List.length_nil, List.nil_append, Nat.zero_add, Nat.sub_zero]
  rw [if_pos (by omega), written, Block.ofList?_toList]

theorem flatMap_groupOctets_replicate (count : Nat) :
    (List.replicate count 0).flatMap groupOctets = List.replicate (2 * count) 0 := by
  have zeros : groupOctets 0 = List.replicate 2 0 := by decide
  rw [List.flatMap_replicate, zeros, List.flatten_replicate_replicate, Nat.mul_comm]

/-- A host with groups of zeros left out reads back.  The gap may stand for a single group here,
although it is never written for one. -/
theorem v6Octets?_gap {octets : Block 16} {head tail : List Nat} {size : Nat} (left : 0 < size)
    (groups : groupsOf octets.toList = head ++ (List.replicate size 0 ++ tail)) :
    v6Octets? (colonGroups head ++ [':', ':'] ++ colonGroups tail) = some octets := by
  have fits := lt_of_mem_groupsOf octets.toList
  rw [groups] at fits
  obtain ⟨fitsHead, fitsRest⟩ := List.forall_mem_append.mp fits
  have fitsTail := (List.forall_mem_append.mp fitsRest).2
  have whole : head.flatMap groupOctets ++ (List.replicate (2 * size) 0 ++
      tail.flatMap groupOctets) = octets.toList := by
    have even : octets.toList.length % 2 = 0 := by simp
    rw [← flatMap_groupsOf even, groups, List.flatMap_append, List.flatMap_append,
      flatMap_groupOctets_replicate]
  have total : 2 * head.length + (2 * size + 2 * tail.length) = 16 := by
    have lengths := congrArg List.length whole
    simpa only [List.length_append, List.length_replicate, length_flatMap_groupOctets,
      Block.length_toList] using lengths
  have gap : splitGap? (colonGroups head ++ [':', ':'] ++ colonGroups tail) =
      some (colonGroups head, colonGroups tail) := by
    rw [List.append_assoc, splitGap?_colonGroups_append]
    simp [splitGap?]
  have missing : 16 - 2 * head.length - 2 * tail.length = 2 * size := by omega
  simp only [v6Octets?, gap, groups?_colonGroups fitsHead, lastGroups?_colonGroups fitsTail,
    Option.bind_eq_bind, Option.bind_some, length_flatMap_groupOctets]
  rw [if_pos (by omega), missing, List.append_assoc, whole, Block.ofList?_toList]

/-- **An IPv6 host reads back**, in each of its three forms: mapped, with a gap, and with all
eight groups. -/
theorem v6Octets?_v6Host (octets : Block 16) : v6Octets? (v6Host octets.toList) = some octets := by
  unfold v6Host
  split
  · next mapped => exact v6Octets?_mapped mapped
  · dsimp only
    split
    · next gap =>
      exact v6Octets?_gap (Nat.lt_trans Nat.zero_lt_one gap)
        (eq_append_longestGap (Nat.lt_trans Nat.zero_lt_one gap))
    · have noGap : splitGap? (colonGroups (groupsOf octets.toList)) = none := by
        have := splitGap?_colonGroups_append (groupsOf octets.toList) []
        rwa [List.append_nil] at this
      have whole : (groupsOf octets.toList).flatMap groupOctets = octets.toList :=
        flatMap_groupsOf (by simp)
      rw [v6Octets?, noGap]
      simp [lastGroups?_colonGroups (lt_of_mem_groupsOf octets.toList), whole]

/-- The characters of hosts. -/
def isHostChar (c : Char) : Bool := (Hex.digit? c).isSome || c == ':' || c == '.'

theorem isHostChar_of_mem_v4Host {octets : Bytes} {c : Char} (present : c ∈ v4Host octets) :
    isHostChar c = true := by
  obtain isDigit | rfl := isDigit_or_eq_of_mem_v4Host present
  · simp [isHostChar, Hex.digit?, isDigit]
  · decide

theorem isHostChar_of_mem_colonGroups {groups : List Nat} {c : Char}
    (present : c ∈ colonGroups groups) : isHostChar c = true := by
  obtain rfl | ⟨digits, isGroup, inGroup⟩ := eq_or_mem_of_mem_intercalate present
  · decide
  · obtain ⟨n, -, rfl⟩ := List.mem_map.mp isGroup
    simp [isHostChar, Hex.isSome_digit?_of_mem_digits c inGroup]

/-- The characters of an IPv6 host are hexadecimal digits, colons and dots, so that brackets and
scopes stand out from it. -/
theorem isHostChar_of_mem_v6Host {octets : Bytes} {c : Char} (present : c ∈ v6Host octets) :
    isHostChar c = true := by
  unfold v6Host at present
  split at present
  · obtain inFront | inHost := List.mem_append.mp present
    · exact List.all_eq_true.mp (by decide : "::ffff:".toList.all isHostChar = true) c inFront
    · exact isHostChar_of_mem_v4Host inHost
  · dsimp only at present
    split at present
    · obtain inFront | inTail := List.mem_append.mp present
      · obtain inHead | inGap := List.mem_append.mp inFront
        · exact isHostChar_of_mem_colonGroups inHead
        · exact List.all_eq_true.mp (by decide : [':', ':'].all isHostChar = true) c inGap
      · exact isHostChar_of_mem_colonGroups inTail
    · exact isHostChar_of_mem_colonGroups present

/-! ### Whole addresses -/

/-- An IPv4 address reads back with the number of its service, which stands behind the only colon.
-/
theorem ofText?_v4 (octets : Block 4) (portNumber : UInt16) :
    ofText? (v4 octets portNumber).chars = some (v4 octets portNumber) := by
  have noColon := colon_not_mem_v4Host octets.toList
  have noColon' : ':' ∉ Nat.toDigits 10 portNumber.toNat := Decimal.not_mem_toDigits rfl _
  have joined : (v4 octets portNumber).chars =
      List.intercalate [':'] [v4Host octets.toList, Nat.toDigits 10 portNumber.toNat] := by
    rw [List.intercalate_cons_cons, List.intercalate_singleton, chars]
  have parts : (v4 octets portNumber).chars.splitOn ':' =
      [v4Host octets.toList, Nat.toDigits 10 portNumber.toNat] := by
    rw [joined]
    refine List.splitOn_intercalate ':' ?_ (List.cons_ne_nil _ _)
    exact List.forall_mem_cons.mpr ⟨noColon, List.forall_mem_singleton.mpr noColon'⟩
  -- An IPv4 address has no bracket, so it is not taken for an IPv6 one.
  have noBracket : ∀ rest, (v4 octets portNumber).chars ≠ '[' :: rest := by
    intro rest bracket
    have present : '[' ∈ (v4 octets portNumber).chars := bracket ▸ List.mem_cons_self
    rw [chars, List.append_assoc, List.mem_append, List.mem_append, List.mem_singleton] at present
    obtain inHost | isColon | inDigits := present
    · exact absurd (isHostChar_of_mem_v4Host inHost) (by decide)
    · exact absurd isColon (by decide)
    · exact absurd inDigits (Decimal.not_mem_toDigits rfl _)
  rw [ofText?, parts]
  · simp [v4Octets?_v4Host]
  · exact noBracket

/-- How a scope is written behind an IPv6 host. -/
def scopeText (scope : UInt32) : List Char :=
  if scope = 0 then [] else '%' :: Nat.toDigits 10 scope.toNat

/-- What stands between the brackets reads back: the host, and the scope where there is one. -/
theorem bracketed?_v6Host (octets : Block 16) (portNumber : UInt16) (scope : UInt32) :
    bracketed? (v6Host octets.toList ++ scopeText scope) portNumber =
      some (v6 octets portNumber 0 scope) := by
  have noMark : '%' ∉ v6Host octets.toList := fun present =>
    absurd (isHostChar_of_mem_v6Host present) (by decide)
  unfold scopeText
  split
  · next unscoped =>
    have parts : (v6Host octets.toList).splitOn '%' = [v6Host octets.toList] := by
      have alone := List.splitOn_intercalate '%' (List.forall_mem_singleton.mpr noMark)
        (List.cons_ne_nil _ _)
      rwa [List.intercalate_singleton] at alone
    rw [List.append_nil, bracketed?, parts]
    simp [v6Octets?_v6Host, unscoped]
  · have noMark' : '%' ∉ Nat.toDigits 10 scope.toNat := Decimal.not_mem_toDigits rfl _
    have parts : (v6Host octets.toList ++ '%' :: Nat.toDigits 10 scope.toNat).splitOn '%' =
        [v6Host octets.toList, Nat.toDigits 10 scope.toNat] := by
      have two := List.splitOn_intercalate '%'
        (List.forall_mem_cons.mpr ⟨noMark, List.forall_mem_singleton.mpr noMark'⟩)
        (List.cons_ne_nil _ _)
      rwa [List.intercalate_cons_cons, List.intercalate_singleton, List.append_assoc,
        List.singleton_append] at two
    rw [bracketed?, parts]
    simp [v6Octets?_v6Host]

theorem ofText?_v6 (octets : Block 16) (portNumber : UInt16) (flow scope : UInt32) :
    ofText? (v6 octets portNumber flow scope).chars = some (v6 octets portNumber 0 scope) := by
  have brackets : (v6 octets portNumber flow scope).chars =
      '[' :: ((v6Host octets.toList ++ scopeText scope) ++
        ']' :: ':' :: Nat.toDigits 10 portNumber.toNat) := by
    simp [chars, scopeText]
  have inside : ∀ c ∈ v6Host octets.toList ++ scopeText scope, decide (c ≠ ']') = true := by
    intro c present
    rw [decide_eq_true_iff]
    rintro rfl
    unfold scopeText at present
    obtain inHost | inScope := List.mem_append.mp present
    · exact absurd (isHostChar_of_mem_v6Host inHost) (by decide)
    · split at inScope
      · cases inScope
      · obtain isMark | inDigits := List.mem_cons.mp inScope
        · exact absurd isMark (by decide)
        · exact absurd inDigits (Decimal.not_mem_toDigits rfl _)
  rw [brackets, ofText?, List.dropWhile_append_of_pos inside, List.takeWhile_append_of_pos inside]
  simp [bracketed?_v6Host]

/-- **A socket address without flow information reads back from its written form.**  There is no
condition on the host, the number of the service or the scope. -/
theorem ofText?_chars {a : SocketAddress} (flowless : a.flow = 0) : ofText? a.chars = some a := by
  cases a with
  | v4 octets portNumber => exact ofText?_v4 octets portNumber
  | v6 octets portNumber flow scope =>
      obtain rfl : flow = 0 := flowless
      exact ofText?_v6 octets portNumber 0 scope

end SocketAddress

end ConnectTokens
