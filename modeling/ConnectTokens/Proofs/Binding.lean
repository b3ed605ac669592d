import ConnectTokens.Proofs.Discipline

/-!
# What an accepted token stands for

A client may present any bytes.  If a server accepts them under a key, then either an
issuance under that key sealed the very block that is opened, for the same nonce,
protocol id and expire time, or the block is a forgery of the cipher.  Nothing is
assumed of the cipher: a forgery is what the statement gives, and never what it needs.

## Main Definitions

* `SealCall`, `Floor.sealCalls`: the calls of a run that seal a buffer.
* `Forgery`, `Token.Forges`: a block that opens although no call sealed it.
* `TokenRequest.IssuedAs`: a token that was issued, and the private part sealed into it.

## Main Statements

* `PrivateToken.associatedData_injective`: the associated data tell what they are made of.
* `Floor.exists_issued_of_mem_sealCalls`: each call of a run belongs to a token of the run.
* `Floor.run_opens_issued_or_forged`: who presents an accepted token has it from an issuance
  or has forged it.

## Design Notes

The calls are told by the steps: an issuance that has its nonce seals in its next step,
and no other step seals.  So `Floor.sealCalls` runs along the events and asks each floor
on the way what its next step calls.
-/

namespace ConnectTokens

/-- A call that seals a buffer where it stands. -/
structure SealCall where
  buffer : Bytes
  associated : Bytes
  nonce : Nonce
  key : PrivateKey
deriving DecidableEq

/-- **A forgery of the cipher**: a block that opens under a key, a nonce and associated
data, although none of the calls made this block for them. -/
structure Forgery (calls : List SealCall) (key : PrivateKey) (nonce : Nonce)
    (associated block : Bytes) : Prop where
  opens : (openInPlace block associated nonce key).1 = .ok ()
  unsealed : ∀ buffer, ⟨buffer, associated, nonce, key⟩ ∈ calls →
    sealInPlace buffer associated nonce key ≠ (.ok (), block)

/-! ### The calls of a private part -/

namespace PrivateToken

/-- The calls that sealing a private part makes. -/
def sealCalls (p : PrivateToken) (protocolId expireTime : UInt64) (nonce : Nonce)
    (key : PrivateKey) : List SealCall :=
  match p.serialize with
  | .ok plain => [⟨(Block.pad Size.sealedPart plain.toList).toList,
      associatedData nonce.scheme protocolId expireTime, nonce, key⟩]
  | .error _ => []

/-- What a call of a private part makes is its sealed bytes.  There is one call for each part,
with the associated data of what it is sealed for. -/
theorem sealed_of_mem_sealCalls {p : PrivateToken} {protocolId expireTime : UInt64}
    {nonce : Nonce} {key : PrivateKey} {c : SealCall}
    (called : c ∈ p.sealCalls protocolId expireTime nonce key) :
    ∃ buffer, c = ⟨buffer, associatedData nonce.scheme protocolId expireTime, nonce, key⟩ ∧
      sealInPlace buffer (associatedData nonce.scheme protocolId expireTime) nonce key =
        (.ok (), (p.sealedBlock protocolId expireTime nonce key).toList) := by
  rw [sealCalls, serialize_eq, List.mem_singleton] at called
  exact ⟨_, called, sealInPlace_pad _ _ nonce key⟩

/-- **The associated data tell what they are made of**: the scheme by its tag, and two
words of fixed width. -/
theorem associatedData_injective {scheme scheme' : Scheme}
    {protocolId protocolId' expireTime expireTime' : UInt64}
    (same : associatedData scheme protocolId expireTime =
      associatedData scheme' protocolId' expireTime') :
    scheme = scheme' ∧ protocolId = protocolId' ∧ expireTime = expireTime' := by
  have word {x y : UInt64} (eq : Bytes.ofUInt64 x = Bytes.ofUInt64 y) : x = y :=
    (Bytes.eq_ofUInt64_iff.mp rfl).2.symm.trans (Bytes.eq_ofUInt64_iff.mp eq).2
  rw [associatedData, associatedData] at same
  obtain ⟨front, expires⟩ := List.append_inj' same (by simp)
  obtain ⟨tag, protocol⟩ := List.append_inj' front (by simp)
  exact ⟨Scheme.versionTag_injective (Block.ext tag), word protocol, word expires⟩

/-- What opens has passed the cipher.  The reader looks at no byte of the part before the tag is
checked. -/
theorem openInPlace_of_ofSealed {sealedPart : Block Size.sealedPart}
    {protocolId expireTime : UInt64} {nonce : Nonce} {key : PrivateKey} {p : PrivateToken}
    (opened : ofSealed sealedPart protocolId expireTime nonce key = .ok p) :
    (openInPlace sealedPart.toList (associatedData nonce.scheme protocolId expireTime) nonce
      key).1 = .ok () := by
  simp only [ofSealed] at opened
  split at opened
  · next passed => rw [passed]
  · cases opened

end PrivateToken

/-! ### What the seal of a token binds -/

namespace Layout

/-- The places of what the seal of a token binds, and of the sealed part itself. -/
def boundFields (l : Layout) : List Field :=
  [l.version, l.protocolId, l.expireTime, l.nonce, l.sealedPart]

end Layout

namespace Token

/-- A token agrees with another one in all that the seal binds. -/
structure SameSealed (t t₀ : Token) : Prop where
  versionTag : t.versionTag = t₀.versionTag
  nonce : t.nonce = t₀.nonce
  protocolId : t.protocolId = t₀.protocolId
  expireTime : t.expireTime = t₀.expireTime
  sealedPart : t.sealedPart = t₀.sealedPart

/-- What a token hands to the cipher is a forgery. -/
def Forges (t : Token) (calls : List SealCall) (key : PrivateKey) : Prop :=
  Forgery calls key t.nonce
    (PrivateToken.associatedData t.nonce.scheme t.protocolId t.expireTime) t.sealedPart.toList

/-- Tokens that agree in what the seal binds agree at its places on the wire. -/
theorem SameSealed.slice_wire_eq {t t₀ : Token} (same : t.SameSealed t₀) :
    ∀ f ∈ t₀.layout.boundFields, f.slice t.wire.toList = f.slice t₀.wire.toList := by
  obtain ⟨tag, nonce, protocolId, expireTime, sealedPart⟩ := same
  have layout : t.layout = t₀.layout := by rw [Token.layout, nonce, Token.layout]
  have placed := t.map_slice_wire
  have placed₀ := t₀.map_slice_wire
  simp only [layout, Layout.fields, headerParts, tag, nonce, protocolId, expireTime,
    sealedPart, List.map_cons, List.map_nil, List.cons.injEq, and_true] at placed placed₀
  simp only [Layout.boundFields, List.forall_mem_cons, placed, placed₀, List.not_mem_nil,
    false_implies, implies_true, and_self]

end Token

/-! ### The calls of a run -/

/-- The calls that finishing a draft makes. -/
def Draft.sealCalls (d : Draft) (key : PrivateKey) (nonce : Nonce) : List SealCall :=
  d.content.sealCalls d.protocolId d.expireTime nonce key

/-- The draft of an issuance that has one. -/
def Progress.draft? : Progress → Option Draft
  | .drafted d | .numbered d _ => some d
  | .asked | .finished _ => none

namespace Issuance

/-- The calls that the next step of an issuance makes. -/
def sealCalls (i : Issuance) : List SealCall :=
  match i.progress with
  | .numbered d nonce => d.sealCalls i.desk.issuer.key nonce
  | _ => []

/-- The draft of an issuance, if there is one, is a draft of its request. -/
def FollowsRequest (i : Issuance) : Prop :=
  ∀ d, i.progress.draft? = some d →
    ∃ random random', i.request.draft i.now random = (.ok d, random')

/-- A step leaves the draft that of the request: it is made in the first step, and the others hand
it on. -/
theorem FollowsRequest.step {i : Issuance} (follows : i.FollowsRequest) (b : Bureau) :
    (i.step b).1.FollowsRequest := by
  cases progress : i.progress with
  | asked =>
      simp only [Issuance.step, progress]
      split
      · rintro d ⟨⟩
      · next random drafted =>
        rintro d ⟨⟩
        exact ⟨b.random, random, drafted⟩
  | drafted d =>
      simp only [Issuance.step, progress]
      split
      · rintro d ⟨⟩
      · rintro d ⟨⟩
        exact follows d (by rw [progress]; rfl)
  | numbered d nonce =>
      simp only [Issuance.step, progress]
      rintro d ⟨⟩
  | finished outcome =>
      simp only [Issuance.step, progress]
      exact follows

end Issuance

namespace TokenRequest

/-- **What was issued for a request** under a key: a token, and the private part that was
asked for, which is sealed into it. -/
structure IssuedAs (r : TokenRequest) (key : PrivateKey) (t : Token) (p : PrivateToken) :
    Prop where
  isSealed : Token.sealPrivate p t.protocolId t.createTime t.expireTime t.nonce key = .ok t
  protocolId : t.protocolId = r.protocolId
  clientId : p.clientId = r.clientId
  timeout : p.timeout = r.timeout
  servers : p.servers.toList = r.servers
  userData : p.userData = Block.pad Size.userData r.userData

/-- The token of a draft is issued as the request asks, under any key and nonce, and with what was
drafted as its content. -/
theorem issuedAs_token {r : TokenRequest} {now : Instant} {d : Draft}
    {random random' : RandomSource} (drafted : r.draft now random = (.ok d, random'))
    (key : PrivateKey) (nonce : Nonce) : r.IssuedAs key (d.token key nonce) d.content := by
  obtain ⟨servers, expireTime, hasServers, -, -, rfl, -⟩ := draft_eq_ok_iff.mp drafted
  refine ⟨?_, rfl, rfl, rfl, hasServers, rfl⟩
  rw [Token.sealPrivate, PrivateToken.sealed_eq]
  rfl

end TokenRequest

namespace Floor

/-- The calls that an event makes. -/
def callsIn (f : Floor) : Event → List SealCall
  | .advance n =>
    match f.issuances[n]? with
    | some i => i.sealCalls
    | none => []
  | .takeValue _ => []

/-- The calls that a run makes, in the order of its steps. -/
def sealCalls (f : Floor) : List Event → List SealCall
  | [] => []
  | e :: events => f.callsIn e ++ (f.step e).sealCalls events

/-- Drafts stay those of their requests, for all issuances on the floor and whatever the event is.
-/
theorem followsRequest_step {f : Floor} (follows : ∀ i ∈ f.issuances, i.FollowsRequest)
    (e : Event) : ∀ i ∈ (f.step e).issuances, i.FollowsRequest := by
  cases e with
  | takeValue place => exact follows
  | advance n =>
      cases found : f.issuances[n]? with
      | none =>
          simp only [step, found]
          exact follows
      | some i =>
          simp only [step, found]
          intro j present
          obtain present | rfl := List.mem_or_eq_of_mem_set present
          · exact follows j present
          · exact (follows i (List.mem_of_getElem? found)).step f.bureau

/-- An event brings no issuance and changes of one no more than how far it is.  Desk, instant and
request are those of the opening. -/
theorem Happens.origin {f f' : Floor} {e : Event} {n : Nat} {i' : Issuance}
    (happened : f.Happens e f') (found' : f'.issuances[n]? = some i') :
    ∃ i p, f.issuances[n]? = some i ∧ i' = { i with progress := p } := by
  have length : f'.issuances.length = f.issuances.length := by
    cases happened with
    | absent | taken => rfl
    | moved => exact List.length_set
  have inside : n < f.issuances.length := length ▸ (List.getElem?_eq_some_iff.mp found').1
  have found := List.getElem?_eq_getElem inside
  obtain ⟨-, same, -⟩ | ⟨p, b, answers, -, -, moved, -⟩ := happened.issuance found
  · exact ⟨i', i'.progress, by rw [found, ← same, found'], rfl⟩
  · rw [found'] at moved
    exact ⟨_, p, found, Option.some.inj moved⟩

/-- A finished issuance stays where it is, so that what has been issued can be named at the end of
a run. -/
theorem Happens.finished {f f' : Floor} {e : Event} {n : Nat} {i : Issuance}
    {outcome : Except IssuanceError Token} (happened : f.Happens e f')
    (found : f.issuances[n]? = some i) (finished : i.progress = .finished outcome) :
    f'.issuances[n]? = some i := by
  obtain ⟨-, found', -⟩ | ⟨p, b, answers, -, moves, found', -⟩ := happened.issuance found
  · exact found'
  · rw [found']
    cases moves with
    | rest same => rw [← same]
    | reject progress | draft progress | draw progress | take progress | exhaust progress
    | finish progress =>
        rw [finished] at progress
        cases progress

theorem outcomeOf_run_of_finished {f : Floor} {n : Nat} {i : Issuance}
    {outcome : Except IssuanceError Token} (found : f.issuances[n]? = some i)
    (finished : i.progress = .finished outcome) (events : List Event) :
    (f.run events).outcomeOf n = some outcome := by
  have stays : (f.run events).issuances[n]? = some i :=
    run_invariant (fun g => g.issuances[n]? = some i) found
      (fun found happened => happened.finished found finished) events
  rw [outcomeOf, stays]
  simp [Issuance.outcome?, finished]

/-- Who makes a call has its nonce: calls are made in the step from the nonce to the token, and in
no other one. -/
theorem exists_numbered_of_mem_callsIn {f : Floor} {e : Event} {c : SealCall}
    (called : c ∈ f.callsIn e) :
    ∃ (n : Nat) (i : Issuance) (d : Draft) (nonce : Nonce), e = .advance n ∧
      f.issuances[n]? = some i ∧ i.progress = .numbered d nonce ∧
      c ∈ d.sealCalls i.desk.issuer.key nonce := by
  cases e with
  | takeValue place => cases called
  | advance n =>
      simp only [callsIn] at called
      split at called
      · next i found =>
        simp only [Issuance.sealCalls] at called
        split at called
        · next d nonce progress => exact ⟨n, i, d, nonce, rfl, found, progress, called⟩
        · cases called
      · cases called

/-- **Each call of a run belongs to a token of the run**, whose issuance made the call for
a draft of its request. -/
theorem exists_issued_of_mem_sealCalls {f : Floor}
    (follows : ∀ i ∈ f.issuances, i.FollowsRequest) {events : List Event} {c : SealCall}
    (called : c ∈ f.sealCalls events) :
    ∃ (n : Nat) (i : Issuance) (d : Draft) (nonce : Nonce), f.issuances[n]? = some i ∧
      (f.run events).outcomeOf n = some (.ok (d.token i.desk.issuer.key nonce)) ∧
      i.request.IssuedAs i.desk.issuer.key (d.token i.desk.issuer.key nonce) d.content ∧
      c ∈ d.sealCalls i.desk.issuer.key nonce := by
  -- On the events, with the floor free: a call is one of the first event or a later one.
  induction events generalizing f with
  | nil => cases called
  | cons e events ih =>
      rw [sealCalls, List.mem_append] at called
      obtain now | later := called
      · obtain ⟨n, i, d, nonce, rfl, found, progress, made⟩ := exists_numbered_of_mem_callsIn now
        obtain ⟨random, random', drafted⟩ :=
          follows i (List.mem_of_getElem? found) d (by rw [progress]; rfl)
        refine ⟨n, i, d, nonce, found, ?_, TokenRequest.issuedAs_token drafted _ nonce, made⟩
        have inside := (List.getElem?_eq_some_iff.mp found).1
        refine outcomeOf_run_of_finished (f := f.step (.advance n))
          (i := { i with progress := .finished (.ok (d.token i.desk.issuer.key nonce)) })
          ?_ rfl events
        simp only [step, found, Issuance.step, progress, Draft.finish_eq]
        exact List.getElem?_set_self inside
      · obtain ⟨n, i', d, nonce, found', outcome, issued, made⟩ :=
          ih (followsRequest_step follows e) later
        obtain ⟨i, p, found, rfl⟩ := (f.step_happens e).origin found'
        exact ⟨n, i, d, nonce, found, outcome, issued, made⟩

/-- **Some issuance vouches** for a token that opens under a key: it issued, under this
key, a token that agrees in all that the seal binds, and what opens is what was sealed
into it, without flow information and scopes. -/
def Vouches (f : Floor) (issuances : List Issuance) (key : PrivateKey) (t : Token)
    (p : PrivateToken) : Prop :=
  ∃ n i t₀ p₀, issuances[n]? = some i ∧ i.desk.issuer.key = key ∧
    f.outcomeOf n = some (.ok t₀) ∧ i.request.IssuedAs key t₀ p₀ ∧ t.SameSealed t₀ ∧
    p = p₀.unscoped

section Presented

variable {b : Bureau} {issuances : List Issuance} {key : PrivateKey} {t : Token}
variable {p : PrivateToken}

/-- At the start there are no drafts yet, so that there is nothing to show. -/
theorem followsRequest_opening (untouched : ∀ i ∈ issuances, i.progress = .asked) :
    ∀ i ∈ (opening b issuances).issuances, i.FollowsRequest := by
  intro i present d drafted
  rw [untouched i present] at drafted
  cases drafted

/-- A block that a call of the run made opens to what was sealed into a token of the run.  So a
token that opens is traced back to an issuance, unless the call was never made. -/
theorem opening_issued (untouched : ∀ i ∈ issuances, i.progress = .asked) {events : List Event}
    (opened : t.openPrivate key = .ok p) {buffer : Bytes}
    (called : ⟨buffer, PrivateToken.associatedData t.nonce.scheme t.protocolId t.expireTime,
      t.nonce, key⟩ ∈ (opening b issuances).sealCalls events)
    (made : sealInPlace buffer
      (PrivateToken.associatedData t.nonce.scheme t.protocolId t.expireTime) t.nonce key =
        (.ok (), t.sealedPart.toList)) :
    ((opening b issuances).run events).Vouches issuances key t p := by
  obtain ⟨n, i, d, nonce, found, outcome, issued, called⟩ :=
    exists_issued_of_mem_sealCalls (followsRequest_opening untouched) called
  obtain ⟨buffer', sameCall, seals⟩ := PrivateToken.sealed_of_mem_sealCalls called
  obtain ⟨rfl, associated, rfl, rfl⟩ := SealCall.mk.inj sameCall
  obtain ⟨-, protocolId, expireTime⟩ := PrivateToken.associatedData_injective associated
  have block : t.sealedPart =
      d.content.sealedBlock d.protocolId d.expireTime t.nonce i.desk.issuer.key := by
    rw [← associated, made] at seals
    exact Block.ext (congrArg Prod.snd seals)
  refine ⟨n, i, _, d.content, found, rfl, outcome, issued,
    ⟨rfl, rfl, protocolId, expireTime, block⟩, ?_⟩
  rw [Token.openPrivate, block, protocolId, expireTime, PrivateToken.ofSealed_sealedBlock] at opened
  exact (Except.ok.inj opened).symm

/-- **Authenticated binding.**  Whatever bytes a client presents after whatever run of
issuances: if they are accepted as a token that opens under a key, then an issuance of the
run under this key issued a token with the same version tag, nonce, protocol id, expire
time and sealed part, and what opens is the private part that was sealed into it; or else
the token forges the cipher.  So bytes that differ from every token that was issued under
the key, somewhere in these fields, are accepted by a forgery only. -/
theorem run_opens_issued_or_forged (untouched : ∀ i ∈ issuances, i.progress = .asked)
    (events : List Event) {w : Bytes} (accepted : Token.parse w = .ok t)
    (opened : t.openPrivate key = .ok p) :
    (((opening b issuances).run events).Vouches issuances key t p ∨
      t.Forges ((opening b issuances).sealCalls events) key) ∧
    ((∀ n i t₀ b₀, issuances[n]? = some i → i.desk.issuer.key = key →
        ((opening b issuances).run events).outcomeOf n = some (.ok t₀) →
        t₀.toBytes = .ok b₀ →
        ∃ f ∈ t₀.layout.boundFields, f.slice w ≠ f.slice b₀.toList) →
      t.Forges ((opening b issuances).sealCalls events) key) := by
  have issued_or_forged : ((opening b issuances).run events).Vouches issuances key t p ∨
      t.Forges ((opening b issuances).sealCalls events) key := by
    by_cases sealedBefore : ∃ buffer, ⟨buffer,
        PrivateToken.associatedData t.nonce.scheme t.protocolId t.expireTime, t.nonce, key⟩ ∈
          (opening b issuances).sealCalls events ∧
        sealInPlace buffer
          (PrivateToken.associatedData t.nonce.scheme t.protocolId t.expireTime) t.nonce key =
            (.ok (), t.sealedPart.toList)
    · obtain ⟨buffer, called, made⟩ := sealedBefore
      exact .inl (opening_issued untouched opened called made)
    · exact .inr ⟨PrivateToken.openInPlace_of_ofSealed opened,
        fun buffer called made => sealedBefore ⟨buffer, called, made⟩⟩
  refine ⟨issued_or_forged, fun differs => ?_⟩
  obtain ⟨n, i, t₀, p₀, found, sameKey, outcome, -, same, -⟩ | forged := issued_or_forged
  · -- What agrees in what the seal binds agrees in its bytes.
    obtain ⟨f, isBound, differ⟩ := differs n i t₀ t₀.wire found sameKey outcome t₀.toBytes_eq
    rw [(Token.parse_eq_ok_iff.mp accepted).2] at differ
    exact absurd (same.slice_wire_eq f isBound) differ
  · exact forged

end Presented

/-- An issuance at a desk with a counter. -/
def soleIssuance (now : Instant) : Issuance :=
  .start ⟨Issuer.countingIssuer, 0⟩ now Issuer.scopedRequest

/-- A floor with one issuance. -/
def soleOpening (now : Instant) : Floor := opening ⟨[⟨6⟩], .seeded 1⟩ [soleIssuance now]

/-- The token of the only issuance is vouched for once it is issued, and a forgery before.  Both
sides of the alternative can therefore occur. -/
theorem run_opens_issued_or_forged_sole :
    ∃ w t p, Token.parse w = .ok t ∧ t.openPrivate Issuer.countingIssuer.key = .ok p ∧
      ((soleOpening ⟨1000, 0⟩).run [.advance 0, .advance 0, .advance 0]).Vouches
        [soleIssuance ⟨1000, 0⟩] Issuer.countingIssuer.key t p ∧
      t.Forges ((soleOpening ⟨1000, 0⟩).sealCalls []) Issuer.countingIssuer.key := by
  have untouched : ∀ i ∈ [soleIssuance ⟨1000, 0⟩], i.progress = .asked := by
    simp [soleIssuance, Issuance.start]
  obtain ⟨c, called⟩ := List.exists_mem_of_ne_nil
    ((soleOpening ⟨1000, 0⟩).sealCalls [.advance 0, .advance 0, .advance 0]) (by decide +kernel)
  obtain ⟨n, i, d, nonce, found, outcome, issued, own⟩ :=
    exists_issued_of_mem_sealCalls (followsRequest_opening untouched) called
  obtain rfl : i = soleIssuance ⟨1000, 0⟩ := List.mem_singleton.mp (List.mem_of_getElem? found)
  have accepted := Token.parse_wire (d.token Issuer.countingIssuer.key nonce)
  have opened := d.openPrivate_token Issuer.countingIssuer.key nonce
  refine ⟨_, _, _, accepted, opened, ?_, ?_⟩
  · obtain vouched | forged := (run_opens_issued_or_forged (b := ⟨[⟨6⟩], .seeded 1⟩) untouched
      [.advance 0, .advance 0, .advance 0] accepted opened).1
    · exact vouched
    · -- The call that made the block is one of the run.
      obtain ⟨buffer, rfl, made⟩ := PrivateToken.sealed_of_mem_sealCalls own
      exact absurd made (forged.unsealed buffer called)
  · refine (run_opens_issued_or_forged (b := ⟨[⟨6⟩], .seeded 1⟩) untouched [] accepted opened).2 ?_
    intro m j t₀ b₀ present _ finished
    have found : (soleOpening ⟨1000, 0⟩).issuances[m]? = some j := present
    obtain rfl : j = soleIssuance ⟨1000, 0⟩ :=
      List.mem_singleton.mp (List.mem_of_getElem? present)
    have unfinished : (soleOpening ⟨1000, 0⟩).outcomeOf m = none := by rw [outcomeOf, found]; rfl
    cases unfinished.symm.trans finished

end Floor

end ConnectTokens
