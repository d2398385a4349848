import NoOS.Network.AtParserReceive

/-!
# Streams of bytes

What holds after each byte of a stream, unless the result overflows, holds after the whole
stream. Text is appended; an asynchronous message is noticed at its last byte.
-/

namespace NoOS
open PrefixMatcher

variable {msg seen vis acc : List UInt8} {idx ch : UInt8} {desc d : AtDesc} {s s' : AtSystem}
  {newCb : Option CbRef} {n : ℕ}

/-- Unless the result overflows, the parser takes the whole stream and `P` holds then. -/
def AtSystem.Yields (s : AtSystem) (stream : List (UInt8 × Option CbRef)) (P : AtSystem → Prop) : Prop :=
  Trace.Always (Trace.orFault AtSystem.step) (Trace.Unless (fun _ => True) AtSystem.NoOverflow) (.ok s)
    (feed stream) →
  ∃ s', Trace.run (Trace.orFault AtSystem.step) (.ok s) (feed stream) = .ok s' ∧ P s'

variable {P Q : AtSystem → Prop} {p : UInt8 × Option CbRef} {stream : List (UInt8 × Option CbRef)}

lemma AtSystem.Yields.nil (h : P s) : s.Yields [] P := fun _ => ⟨s, rfl, h⟩

lemma AtSystem.Yields.receive (h : ∃ s', uartReceive s p.1 p.2 = .ok s' ∧ (s'.NoOverflow → P s')) :
    s.Yields [p] P := by
  obtain ⟨s', hs', hP⟩ := h
  intro hspace
  have hrun : Trace.run (Trace.orFault AtSystem.step) (.ok s) (feed [p]) = .ok s' := hs'
  have hlast := hspace.last
  rw [hrun] at hlast
  exact ⟨s', hrun, hP hlast⟩

lemma AtSystem.Yields.append {stream' : List (UInt8 × Option CbRef)} (h : s.Yields stream P)
    (h' : ∀ s', P s' → s'.Yields stream' Q) : s.Yields (stream ++ stream') Q := by
  intro hspace
  rw [feed, List.map_append, Trace.always_append] at hspace
  obtain ⟨s', hs', hP⟩ := h hspace.1
  rw [feed] at hs'
  rw [hs'] at hspace
  obtain ⟨s'', hs'', hQ⟩ := h' s' hP hspace.2
  refine ⟨s'', ?_, hQ⟩
  rw [feed, List.map_append, Trace.run_append, hs']
  exact hs''

lemma AtSystem.Yields.mono (h : s.Yields stream P) (hPQ : ∀ s', P s' → Q s') : s.Yields stream Q := by
  intro hspace
  obtain ⟨s', hs', hP⟩ := h hspace
  exact ⟨s', hs', hPQ s' hP⟩

/-- The parser has read `vis` since the last frame; of the asynchronous messages it has seen
`seen`, which a WIFI message resets. -/
structure AtSystem.Reads (s : AtSystem) (n : ℕ) (acc seen vis : List UInt8) : Prop where
  holds : s.Holds n acc seen
  suffix : seen <:+ vis
  ended : ∀ msg ∈ asyncMsgs, msg <:+ seen → msg = closedMsg
  seeks : s.desc.Seeks vis

/-- No byte of the list ends a message. -/
def Quiet : List UInt8 → List UInt8 → Prop
  | _, [] => True
  | vis, ch :: chs =>
    (ch ≠ 0 ∧ ∀ msg ∈ atIpd :: asyncMsgs, ¬msg <:+ vis ++ [ch]) ∧ Quiet (vis ++ [ch]) chs

lemma not_suffix_of_getLast (hlast : msg.getLast? ≠ some ch) (hne : msg ≠ []) : ¬msg <:+ vis ++ [ch] := by
  intro hsuffix
  apply hlast
  rw [List.getLast?_eq_some_getLast hne, hsuffix.getLast hne, List.getLast_append_singleton]

lemma not_suffix_of_last (hlf : ch ≠ 10) (hcomma : ch ≠ 44) :
    ∀ msg ∈ atIpd :: asyncMsgs, ¬msg <:+ vis ++ [ch] := by
  have hlast : ∀ msg ∈ atIpd :: asyncMsgs, (msg.getLast? = some 10 ∨ msg.getLast? = some 44) ∧ msg ≠ [] := by
    decide
  intro msg hmsg
  obtain ⟨hends, hne⟩ := hlast msg hmsg
  apply not_suffix_of_getLast _ hne
  rcases hends with h | h
  · rw [h, Ne, Option.some.injEq]
    exact Ne.symm hlf
  · rw [h, Ne, Option.some.injEq]
    exact Ne.symm hcomma

lemma async_not_suffix (hlf : ch ≠ 10) : ∀ msg ∈ asyncMsgs, ¬msg <:+ vis ++ [ch] := by
  have hlast : ∀ msg ∈ asyncMsgs, msg.getLast? = some 10 ∧ msg ≠ [] := by decide
  intro msg hmsg
  obtain ⟨hends, hne⟩ := hlast msg hmsg
  apply not_suffix_of_getLast _ hne
  rw [hends, Ne, Option.some.injEq]
  exact Ne.symm hlf

lemma digit_inner : ∀ k < 10, digit k ≠ 0 ∧ digit k ≠ 10 ∧ digit k ≠ 44 := by decide

lemma quiet_of_inner {chs : List UInt8} (h : chs.all (fun ch => ch ≠ 0 ∧ ch ≠ 10 ∧ ch ≠ 44) = true) :
    Quiet vis chs := by
  induction chs generalizing vis with
  | nil => trivial
  | cons ch chs ih =>
    rw [List.all_cons, Bool.and_eq_true, decide_eq_true_eq] at h
    obtain ⟨⟨hnul, hlf, hcomma⟩, htail⟩ := h
    exact ⟨⟨hnul, not_suffix_of_last hlf hcomma⟩, ih htail⟩

lemma AtSystem.Reads.quiet (h : s.Reads n acc seen vis) (newCb : Option CbRef)
    (hquiet : ∀ msg ∈ atIpd :: asyncMsgs, ¬msg <:+ vis ++ [ch])
    (hnul : ch = 0 → ∀ msg ∈ asyncMsgs, ¬msg <:+ seen) :
    ∃ s', uartReceive s ch newCb = .ok s' ∧
      (s'.NoOverflow → s'.Reads n (acc ++ [ch]) (seen ++ [ch]) (vis ++ [ch])) := by
  have hseek : AtDesc.Seeks { s.desc with readCh := ch } vis := ⟨h.seeks.idx, h.seeks.tracks, h.seeks.len⟩
  obtain ⟨d, hpay, hmiss, -⟩ := hseek.byte h.holds.multiple ch
  have hnext : seen ++ [ch] <:+ vis ++ [ch] := by
    obtain ⟨t, ht⟩ := h.suffix
    exact ⟨t, by rw [← List.append_assoc, ht]⟩
  have hasync : ∀ msg ∈ asyncMsgs, ¬msg <:+ seen ++ [ch] := fun msg hmsg hs =>
    hquiet msg (List.mem_cons_of_mem _ hmsg) (hs.trans hnext)
  obtain ⟨s', hs', hres⟩ := h.holds.receive_quiet newCb hpay hasync hnul
  refine ⟨s', hs', fun hno => ?_⟩
  obtain ⟨hholds, hidx, -, hlen, -⟩ := hres hno
  have hd := hmiss (hquiet atIpd (by simp))
  refine ⟨hholds, hnext, fun msg hmsg hs => absurd hs (hasync msg hmsg), ?_⟩
  exact ⟨hidx ▸ hd.idx, hidx ▸ hd.tracks, hlen.trans hd.len⟩

lemma AtSystem.Reads.quiet_run (h : s.Reads n acc seen vis) {chs : List UInt8} (hquiet : Quiet vis chs)
    (hbytes : stream.map Prod.fst = chs) :
    s.Yields stream fun s' => s'.Reads n (acc ++ chs) (seen ++ chs) (vis ++ chs) := by
  induction chs generalizing s acc seen vis stream with
  | nil =>
    rw [List.map_eq_nil_iff] at hbytes
    subst hbytes
    apply AtSystem.Yields.nil
    simpa using h
  | cons ch chs ih =>
    obtain ⟨p, stream', rfl, hp, hrest⟩ := List.map_eq_cons_iff.mp hbytes
    obtain ⟨⟨hnul, hno⟩, htail⟩ := hquiet
    subst hp
    have hfirst : s.Yields [p] fun s' => s'.Reads n (acc ++ [p.1]) (seen ++ [p.1]) (vis ++ [p.1]) :=
      .receive (h.quiet p.2 hno fun hc => absurd hc hnul)
    have hboth := hfirst.append fun s' hs' => ih hs' htail hrest
    simpa using hboth

/-- The line feed of an asynchronous message does not end the start of a header. -/
lemma AtSystem.Reads.lineFeed (h : s.Reads n acc seen vis) :
    ∃ d, isPayloadMessage { s.desc with readCh := 10 } 10 = .ok (false, d) ∧
      d.Seeks (vis ++ [10]) := by
  have hseek : AtDesc.Seeks { s.desc with readCh := 10 } vis := ⟨h.seeks.idx, h.seeks.tracks, h.seeks.len⟩
  obtain ⟨d, hpay, hmiss, -⟩ := hseek.byte h.holds.multiple 10
  exact ⟨d, hpay, hmiss (not_suffix_of_getLast (by decide) (by decide))⟩

lemma AtSystem.Reads.closedMsg_run (h : s.Reads n acc seen vis)
    (hbytes : stream.map Prod.fst = closedMsg) :
    s.Yields stream fun s' => ∃ acc' seen', s'.Reads n acc' seen' (vis ++ closedMsg) ∧
      (acc' = acc ∧ (∀ b (i : Fin MAX_CONNECTIONS), acc ≠ b ++ [digit i, 44]) ∨
        acc' = acc.take (acc.length - 2) ++ [10]) := by
  obtain ⟨first, last, rfl, hfirst, hlast⟩ :=
    List.map_eq_append_iff.mp (show stream.map Prod.fst = closedMsg.dropLast ++ [10] from hbytes)
  obtain ⟨p, rfl, hp⟩ := List.map_eq_singleton_iff.mp hlast
  have hquiet : Quiet vis closedMsg.dropLast := quiet_of_inner (by decide)
  apply (h.quiet_run hquiet hfirst).append
  intro s' hs'
  obtain ⟨d, hpay, hseeks⟩ := hs'.lineFeed
  have hseen : closedMsg <:+ seen ++ closedMsg.dropLast ++ [10] :=
    ⟨seen, by rw [List.append_assoc]; rfl⟩
  have hvis : vis ++ closedMsg.dropLast ++ [10] = vis ++ closedMsg := by
    rw [List.append_assoc]
    rfl
  obtain ⟨s'', hs'', hres⟩ := hs'.holds.receive_closed p.2 hpay hseen
  apply AtSystem.Yields.receive
  rw [hp]
  refine ⟨s'', hs'', fun hno => ?_⟩
  obtain ⟨acc', seen', hholds, hsuffix, hidx, hlen, hacc⟩ := hres hno
  rw [hvis] at hseeks
  refine ⟨acc', seen', ⟨hholds, hsuffix.trans (List.suffix_append _ _), ?_, ?_⟩, hacc⟩
  · intro msg hmsg hs
    have hcl : msg <:+ closedMsg := hs.trans hsuffix
    have hall : ∀ msg ∈ asyncMsgs, msg <:+ closedMsg → msg = closedMsg := by decide
    exact hall msg hmsg hcl
  · exact ⟨hidx ▸ hseeks.idx, hidx ▸ hseeks.tracks, hlen.trans hseeks.len⟩

lemma AtSystem.Reads.wifi_run (h : s.Reads n acc seen vis)
    (hmsg : msg = wifiDisconnectMsg ∨ msg = wifiGotIpMsg) (hbytes : stream.map Prod.fst = msg) :
    s.Yields stream fun s' => s'.Reads n (acc ++ msg.dropLast) [] (vis ++ msg) := by
  have hsplit : msg = msg.dropLast ++ [10] := by
    rcases hmsg with rfl | rfl
    · rfl
    · rfl
  have hinner : msg.dropLast.all (fun ch => ch ≠ 0 ∧ ch ≠ 10 ∧ ch ≠ 44) = true := by
    rcases hmsg with rfl | rfl
    · decide
    · decide
  obtain ⟨first, last, rfl, hfirst, hlast⟩ := List.map_eq_append_iff.mp (hbytes.trans hsplit)
  obtain ⟨p, rfl, hp⟩ := List.map_eq_singleton_iff.mp hlast
  apply (h.quiet_run (quiet_of_inner hinner) hfirst).append
  intro s' hs'
  obtain ⟨d, hpay, hseeks⟩ := hs'.lineFeed
  have hseen : msg <:+ seen ++ msg.dropLast ++ [10] := ⟨seen, by rw [List.append_assoc, ← hsplit]⟩
  obtain ⟨s'', hs'', hres⟩ := hs'.holds.receive_wifi p.2 hpay hmsg hseen
  apply AtSystem.Yields.receive
  rw [hp]
  refine ⟨s'', hs'', fun hno => ?_⟩
  obtain ⟨hholds, hidx, hlen⟩ := hres hno
  rw [List.append_assoc, ← hsplit] at hseeks
  refine ⟨hholds, List.nil_suffix, ?_, ⟨hidx ▸ hseeks.idx, hidx ▸ hseeks.tracks, hlen.trans hseeks.len⟩⟩
  intro msg' hmsg' hs
  have hall : ∀ msg ∈ asyncMsgs, msg <:+ [] → msg = closedMsg := by decide
  exact hall msg' hmsg' hs

lemma AtSystem.Reads.closed_run (h : s.Reads n acc seen vis) (id : Fin MAX_CONNECTIONS)
    (hbytes : stream.map Prod.fst = [digit id, 44] ++ closedMsg) :
    s.Yields stream fun s' => ∃ seen', s'.Reads n (acc ++ [10]) seen'
      (vis ++ ([digit id, 44] ++ closedMsg)) := by
  obtain ⟨first, last, rfl, hfirst, hlast⟩ := List.map_eq_append_iff.mp hbytes
  have hquiet : Quiet vis [digit id, 44] := by
    obtain ⟨hnul, hlf, hcomma⟩ := digit_inner id (by have := id.isLt; unfold MAX_CONNECTIONS at this; omega)
    refine ⟨⟨hnul, not_suffix_of_last hlf hcomma⟩, ⟨by decide, fun msg hmsg => ?_⟩, trivial⟩
    -- the comma of a header stands behind a 'D'
    have hdiffer : ∀ id : Fin MAX_CONNECTIONS, ∀ msg ∈ atIpd :: asyncMsgs,
        ¬msg <:+ [digit id, 44] ∧ ¬[digit id, 44] <:+ msg := by decide
    apply not_suffix_of_suffix _ (hdiffer id msg hmsg).1 (hdiffer id msg hmsg).2
    rw [List.append_assoc]
    exact List.suffix_append _ _
  apply (h.quiet_run hquiet hfirst).append
  intro s' hs'
  apply (hs'.closedMsg_run hlast).mono
  rintro s'' ⟨acc', seen', hreads, hacc⟩
  rw [List.append_assoc] at hreads
  rcases hacc with ⟨-, hno⟩ | rfl
  · exact absurd rfl (hno acc id)
  · refine ⟨seen', ?_⟩
    simpa using hreads

end NoOS
