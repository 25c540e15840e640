import MissionSim.TmLoss

/-!
# Channels woven into one frame sequence

Frames of several virtual channels reach the parser as one sequence.  Each channel
by itself is a run of zones; the parser has a single reassembly buffer and does
not look at the channel of a frame.

Every channel comes out whole exactly when the sequence never leaves a channel in
the middle of a packet.  `CleanSwitches` says this in terms of packet lengths and
frame counts only.  One direction runs the parser in step with whichever channel
is current; the other finds a packet whose next octet does not follow its last
one, while all the parser can ever give back is a contiguous stretch of what it
received.
-/

namespace Ccsds

open Octets Ecss TMFrameParser List Function

variable {α : Type} [Octet α]

/-! ### What comes out is contiguous -/

theorem extractLoop_infix (fuel : Nat) (buf : List α) :
    (∀ q ∈ (extractLoop fuel buf).1, q <:+: buf) ∧ (extractLoop fuel buf).2 <:+ buf := by
  induction fuel generalizing buf with
  | zero => simp [extractLoop]
  | succ fuel ih =>
      unfold extractLoop
      dsimp only
      split
      · split
        · exact ⟨fun q hq => ((ih _).1 q hq).trans (drop_suffix 1 buf).isInfix,
            (ih _).2.trans (drop_suffix 1 buf)⟩
        · split
          · simp
          · have hrest := (skipIdle_suffix (buf.drop (announcedLength buf))).trans
              (drop_suffix (announcedLength buf) buf)
            refine ⟨?_, (ih _).2.trans hrest⟩
            intro q hq
            rcases mem_cons.mp hq with rfl | hq
            · exact (List.take_prefix _ buf).isInfix
            · exact ((ih _).1 q hq).trans hrest.isInfix
      · simp

variable (p : TMFrameParser α)

theorem extractFromBuffer_infix :
    (∀ q ∈ p.extractFromBuffer.1, q <:+: p.reassemblyBuffer) ∧
      p.extractFromBuffer.2.reassemblyBuffer <:+ p.reassemblyBuffer := by
  unfold extractFromBuffer
  split
  · simp
  · exact extractLoop_infix _ _

theorem extractPackets_infix {frame : TMFrame α} (h : frame.isIdle = false) :
    (∀ q ∈ (p.extractPackets frame).1, q <:+: p.reassemblyBuffer ++ frame.data) ∧
      (p.extractPackets frame).2.reassemblyBuffer <:+ p.reassemblyBuffer ++ frame.data := by
  unfold extractPackets
  simp only [h, Bool.false_eq_true, if_false]
  split
  · exact extractFromBuffer_infix _
  · split
    · have hloaded := extractFromBuffer_infix { p with reassemblyBuffer := frame.data }
      have hdata := suffix_append p.reassemblyBuffer frame.data
      exact ⟨fun q hq => (hloaded.1 q hq).trans hdata.isInfix, hloaded.2.trans hdata⟩
    · generalize frame.header.firstHeaderPointer = fhp
      generalize hpre : extractFromBuffer { p with
        reassemblyBuffer := p.reassemblyBuffer ++ frame.data.take fhp } = pre
      have hbefore : p.reassemblyBuffer ++ frame.data.take fhp <+:
          p.reassemblyBuffer ++ frame.data :=
        (prefix_append_right_inj _).mpr (List.take_prefix fhp frame.data)
      have hafter : frame.data.drop fhp <:+ p.reassemblyBuffer ++ frame.data :=
        (drop_suffix fhp frame.data).trans (suffix_append _ _)
      have hfirst := extractFromBuffer_infix { p with
        reassemblyBuffer := p.reassemblyBuffer ++ frame.data.take fhp }
      rw [hpre] at hfirst
      have hsecond := extractFromBuffer_infix
        { pre.2 with reassemblyBuffer := frame.data.drop fhp }
      refine ⟨fun q hq => ?_, hsecond.2.trans hafter⟩
      rcases mem_append.mp hq with hq | hq
      · exact (hfirst.1 q hq).trans hbefore.isInfix
      · exact (hsecond.1 q hq).trans hafter.isInfix

/-- Whatever comes out of data frames is a contiguous stretch of what went in. -/
theorem extractAll_infix {frames : List (TMFrame α)} (h : ∀ frame ∈ frames, frame.isIdle = false) :
    ∀ q ∈ (p.extractAll frames).1,
      q <:+: p.reassemblyBuffer ++ (frames.map TMFrame.data).flatten := by
  induction frames generalizing p with
  | nil => simp [extractAll]
  | cons frame frames ih =>
      have hhead := extractPackets_infix p (h frame mem_cons_self)
      intro q hq
      rw [map_cons, flatten_cons, ← append_assoc]
      rcases mem_append.mp hq with hq | hq
      · exact (hhead.1 q hq).trans (prefix_append _ _).isInfix
      · refine (ih (p.extractPackets frame).2
          (fun g hg => h g (mem_cons_of_mem _ hg)) q hq).trans ?_
        obtain ⟨t, ht⟩ := hhead.2
        exact List.IsSuffix.isInfix ⟨t, by rw [← append_assoc, ht]⟩

/-- Idle frames pass the parser by. -/
theorem extractAll_filter_idle (frames : List (TMFrame α)) :
    p.extractAll (frames.filter fun frame => !frame.isIdle) = p.extractAll frames := by
  induction frames generalizing p with
  | nil => rfl
  | cons frame frames ih =>
      by_cases h : frame.isIdle = true
      · have hskip : p.extractPackets frame = ([], p) := by
          simp [extractPackets, h]
        rw [filter_cons_of_neg (by simp [h]), ih]
        simp [extractAll, hskip]
      · rw [filter_cons_of_pos (by simp [h])]
        simp only [extractAll, ih]

/-! ### Packet boundaries -/

/-- The octet counts at which a channel is between packets, from packet lengths. -/
def packetBoundaries (lens : List Nat) : List Nat :=
  (List.range (lens.length + 1)).map fun k => (lens.take k).sum

/-- After `n` octets of channel space, or all there is, no packet is in progress. -/
def AtBoundary (lens : List Nat) (n : Nat) : Prop := min n lens.sum ∈ packetBoundaries lens

instance (lens : List Nat) (n : Nat) : Decidable (AtBoundary lens n) :=
  inferInstanceAs (Decidable (_ ∈ _))

/-- The emission order leaves a channel only between its packets.  `sent` counts the
frames of each channel emitted before. -/
def CleanSwitches (dz : Nat) (lens : Nat → List Nat) (sent : Nat → Nat) : List Nat → Prop
  | [] => True
  | [_] => True
  | v :: w :: rest =>
      (v = w ∨ AtBoundary (lens v) (dz * (sent v + 1))) ∧
        CleanSwitches dz lens (Function.update sent v (sent v + 1)) (w :: rest)

variable {done : List (List α)} {dz : Nat}

/-- The packet in progress is the next one completed. -/
theorem ZoneRun.inProgress_prefix {s d s' d' : List α} {zs : List (Zone α)}
    (h : ZoneRun dz s d zs done s' d') :
    ∃ rest, done ++ inProgress s' d' = inProgress s d ++ rest := by
  induction h with
  | nil => exact ⟨[], by simp⟩
  | cons step _ ih =>
      obtain ⟨rest, hrest⟩ := ih
      rw [append_assoc, hrest]
      cases step with
      | through => exact ⟨rest, by simp [inProgress]⟩
      | finish => exact ⟨_, append_assoc _ _ _⟩

omit [Octet α] in
theorem sum_map_length (ps : List (List α)) : (ps.map length).sum = ps.flatten.length := by
  simp

/-- Octet counts strictly inside a packet are no boundary. -/
theorem not_mem_packetBoundaries (lens : List Nat) (len : Nat) (later : List Nat) {n : Nat}
    (hlo : lens.sum < n) (hhi : n < lens.sum + len) :
    n ∉ packetBoundaries (lens ++ len :: later) := by
  intro hmem
  obtain ⟨k, _, hk⟩ := mem_map.mp hmem
  by_cases hle : k ≤ lens.length
  · rw [take_append_of_le_length hle] at hk
    have hsplit := congrArg sum (take_append_drop k lens)
    rw [sum_append] at hsplit
    omega
  · obtain ⟨m, rfl⟩ : ∃ m, k = lens.length + (m + 1) := ⟨k - lens.length - 1, by omega⟩
    rw [take_length_add_append, take_succ_cons, sum_append, sum_cons] at hk
    omega

theorem mem_packetBoundaries (lens later : List Nat) :
    lens.sum ∈ packetBoundaries (lens ++ later) := by
  refine mem_map.mpr ⟨lens.length, ?_, by simp⟩
  simp only [mem_range, length_append]
  omega

/-! ### A channel midway -/

/-- Channel `vcid`, whose packets are `ps`, after `n` of its frames: `sent` and `due`
of the packet in progress, the `frames` still to come and the packets `todo` they
complete.  Only the last zone of the channel may hold fill. -/
structure LaneAt (fmt : FrameFormat) (vcid : Nat) (ps : List (List α)) (n : Nat)
    (sent due : List α) (frames : List (TMFrame α)) (todo : List (List α)) : Prop where
  midway : ∃ past before zs,
    ZoneRun fmt.dataZoneLength [] [] past before sent due ∧ past.length = n ∧
      Frames fmt vcid frames sent due zs todo [] [] ∧
      (∀ z ∈ (past ++ zs).dropLast, z.pad = []) ∧ ps = before ++ todo

variable {s d s' d' : List α}

theorem ZoneRun.open_ok {dz : Nat} {zs : List (Zone α)} (h : ZoneRun dz s d zs done s' d')
    (hopen : OpenOk s d) : OpenOk s' d' := by
  induction h with
  | nil => exact hopen
  | cons step _ ih =>
      refine ih ?_
      cases step with
      | through hopen _ hpos hdue =>
          refine Or.inr ?_
          rcases hopen with ⟨_, h⟩ | ⟨hs, _, hwf⟩
          · exact absurd (append_eq_nil_iff.mp h).2 hdue
          · exact ⟨by simp [hs], hdue, by simpa using hwf⟩
      | finish _ _ hopen' => exact hopen'

theorem ZoneStep.data_length {z : Zone α} (h : ZoneStep dz s d z done s' d') :
    z.data.length = dz := by
  cases h with
  | through _ hlen => simpa [Zone.data] using hlen
  | finish _ _ _ _ _ hlen => exact hlen

/-- Octets carried by a run of zones: at most the zones' space, and all of it when no
zone holds fill. -/
theorem ZoneRun.octets_length {zs : List (Zone α)} (h : ZoneRun dz s d zs done s' d') :
    (zs.map Zone.octets).flatten.length ≤ dz * zs.length ∧
      ((∀ z ∈ zs, z.pad = []) → (zs.map Zone.octets).flatten.length = dz * zs.length) := by
  induction h with
  | nil => simp
  | @cons _ _ _ _ _ _ z zs _ _ step _ ih =>
      have hlen := step.data_length
      rw [z.data_eq, length_append] at hlen
      simp only [map_cons, flatten_cons, length_append, length_cons,
        Nat.mul_succ]
      refine ⟨by omega, fun hpad => ?_⟩
      have hz := hpad z mem_cons_self
      rw [hz, length_nil] at hlen
      have := ih.2 fun w hw => hpad w (mem_cons_of_mem _ hw)
      omega

variable {fmt : FrameFormat}

/-- **Between packets by count.**  Whether a channel has a packet in progress after
`n` frames can be told from its packet lengths. -/
theorem LaneAt.boundary_iff {vcid n : Nat} {ps todo : List (List α)} {sent due : List α}
    {frames : List (TMFrame α)} (h : LaneAt fmt vcid ps n sent due frames todo) :
    AtBoundary (ps.map length) (fmt.dataZoneLength * n) ↔ sent = [] := by
  obtain ⟨past, before, zs, hpast, rfl, hframes, hpad, rfl⟩ := h.midway
  have hstream := congrArg length hpast.stream
  simp only [length_append, nil_append] at hstream
  have hopen := hpast.open_ok (Or.inl ⟨rfl, rfl⟩)
  obtain ⟨rest, hrest⟩ := hframes.run.inProgress_prefix
  rw [inProgress_nil, append_nil] at hrest
  -- the octets carried so far are the space used, up to all there is
  have hcount : min (fmt.dataZoneLength * past.length) ((before ++ todo).map length).sum =
      (before.map length).sum + sent.length := by
    have htotal : ((before ++ todo).map length).sum =
        (before.map length).sum + todo.flatten.length := by
      rw [map_append, sum_append, sum_map_length todo]
    have hopenLen : sent.length ≤ todo.flatten.length := by
      rw [hrest, flatten_append, inProgress_flatten]
      simp only [length_append]
      omega
    rw [htotal, sum_map_length before]
    cases zs with
    | nil =>
        have hlast := hframes.run
        cases hlast
        have := hpast.octets_length.1
        simp only [flatten_nil, length_nil] at hopenLen ⊢
        omega
    | cons z zs =>
        have hfull : ∀ w ∈ past, w.pad = [] := fun w hw => by
          refine hpad w ?_
          rw [dropLast_append_cons]
          exact mem_append_left _ hw
        have := hpast.octets_length.2 hfull
        omega
  unfold AtBoundary
  rw [hcount]
  constructor
  · intro hmem
    by_contra hne
    rcases hopen with ⟨hnil, _⟩ | ⟨_, hdue, hwf⟩
    · exact hne hnil
    · have hprog : inProgress sent due = [sent ++ due] := by simp [inProgress, hne]
      rw [hprog] at hrest
      have hspos := length_pos_iff.mpr hne
      have hdpos := length_pos_iff.mpr hdue
      refine not_mem_packetBoundaries (before.map length) (sent ++ due).length
        (rest.map length) ?_ ?_
        (by simpa [hrest] using hmem)
      · omega
      · simp only [length_append]
        omega
  · rintro rfl
    rw [length_nil, Nat.add_zero, map_append]
    exact mem_packetBoundaries _ _

/-- One frame of a channel. -/
theorem LaneAt.step {fmt : FrameFormat} {vcid n : Nat} {ps todo : List (List α)}
    {sent due : List α} {frame : TMFrame α} {frames : List (TMFrame α)}
    (h : LaneAt fmt vcid ps n sent due (frame :: frames) todo) :
    ∃ z done sent' due' todo', frame.Carries z ∧
      ZoneStep fmt.dataZoneLength sent due z done sent' due' ∧ todo = done ++ todo' ∧
      LaneAt fmt vcid ps (n + 1) sent' due' frames todo' := by
  obtain ⟨past, before, zs, hpast, rfl, ⟨hcarried, hrun, hsealed⟩, hpad, rfl⟩ := h.midway
  cases hcarried with
  | @cons _ z _ zs hframe hrest =>
      cases hrun with
      | @cons _ _ sent' due' _ _ _ _ done todo' step tail =>
          refine ⟨z, done, sent', due', todo', hframe, step, rfl, ⟨past ++ [z], before ++ done,
            zs, ?_, by simp, ⟨hrest, tail, fun f hf => hsealed f (mem_cons_of_mem _ hf)⟩,
            by simpa using hpad, by simp⟩⟩
          simpa using hpast.append (ZoneRun.cons step (ZoneRun.nil sent' due'))

/-- Frames of one channel, in order. -/
def lane (vcid : Nat) (frames : List (TMFrame α)) : List (TMFrame α) :=
  frames.filter fun frame => decide (frame.header.vcid = vcid)

omit [Octet α] in
theorem lane_cons_self (frame : TMFrame α) (frames : List (TMFrame α)) :
    lane frame.header.vcid (frame :: frames) = frame :: lane frame.header.vcid frames := by
  simp [lane]

omit [Octet α] in
theorem lane_cons_of_ne {vcid : Nat} {frame : TMFrame α} (h : vcid ≠ frame.header.vcid)
    (frames : List (TMFrame α)) : lane vcid (frame :: frames) = lane vcid frames := by
  simp [lane, Ne.symm h]

/-- A channel with no frame to come has nothing to do. -/
theorem LaneAt.todo_nil {vcid n : Nat} {ps todo : List (List α)} {sent due : List α}
    (h : LaneAt fmt vcid ps n sent due [] todo) : todo = [] := by
  obtain ⟨_, _, _, _, _, ⟨hcarried, hrun, _⟩, _⟩ := h.midway
  cases hcarried
  cases hrun
  rfl

/-- Octets of the packet in progress belong to a packet of the channel. -/
theorem LaneAt.open_mem {vcid n : Nat} {ps todo : List (List α)} {sent due : List α}
    {frames : List (TMFrame α)} (h : LaneAt fmt vcid ps n sent due frames todo) :
    OpenOk sent due ∧ ∀ p ∈ inProgress sent due ++ todo, p ∈ ps := by
  obtain ⟨past, before, zs, hpast, _, hframes, _, rfl⟩ := h.midway
  refine ⟨hpast.open_ok (Or.inl ⟨rfl, rfl⟩), fun p hp => ?_⟩
  obtain ⟨rest, hrest⟩ := hframes.run.inProgress_prefix
  rw [inProgress_nil, append_nil] at hrest
  rcases mem_append.mp hp with hp | hp
  · exact mem_append_right _ (hrest ▸ mem_append_left _ hp)
  · exact mem_append_right _ hp

/-- All channels of a frame sequence midway, each at its own place. -/
structure Lanes (fmt : FrameFormat) (ps : Nat → List (List α)) (n : Nat → Nat)
    (sent due : Nat → List α) (frames : List (TMFrame α)) (todo : Nat → List (List α)) :
    Prop where
  at_ : ∀ v, LaneAt fmt v (ps v) (n v) (sent v) (due v) (lane v frames) (todo v)

/-- One frame moves its own channel and no other. -/
theorem Lanes.step {fmt : FrameFormat} {ps todo : Nat → List (List α)} {n : Nat → Nat}
    {sent due : Nat → List α} {frame : TMFrame α} {frames : List (TMFrame α)}
    (h : Lanes fmt ps n sent due (frame :: frames) todo) :
    ∃ z done sent' due' todo', frame.Carries z ∧
      ZoneStep fmt.dataZoneLength (sent frame.header.vcid) (due frame.header.vcid) z done
        sent' due' ∧
      todo frame.header.vcid = done ++ todo' ∧
      Lanes fmt ps (update n frame.header.vcid (n frame.header.vcid + 1))
        (update sent frame.header.vcid sent')
        (update due frame.header.vcid due') frames
        (update todo frame.header.vcid todo') := by
  have hown := h.at_ frame.header.vcid
  rw [lane_cons_self] at hown
  obtain ⟨z, done, sent', due', todo', hcarries, hstep, htodo, hnext⟩ := hown.step
  refine ⟨z, done, sent', due', todo', hcarries, hstep, htodo, ⟨fun v => ?_⟩⟩
  by_cases hv : v = frame.header.vcid
  · subst hv
    simpa using hnext
  · have hother := h.at_ v
    rw [lane_cons_of_ne hv] at hother
    simpa [hv] using hother

/-! ### Clean switches keep the parser in step -/

/-- A sequence whose channels are left between packets only comes out whole: what
the parser gives back, marked with channels, has in each channel the packets of
that channel. -/
theorem extractAll_clean {fmt : FrameFormat} (hfmt : fmt.CarriesPackets)
    {ps todo : Nat → List (List α)} {n : Nat → Nat} {sent due : Nat → List α}
    {frames : List (TMFrame α)} {p : TMFrameParser α} (hformat : p.format = fmt)
    (h : Lanes fmt ps n sent due frames todo) (current : Nat)
    (hbuf : p.reassemblyBuffer = sent current) (hothers : ∀ v, v ≠ current → sent v = [])
    (hfirst : ∀ frame ∈ frames.head?, frame.header.vcid = current ∨ sent current = [])
    (hclean : CleanSwitches fmt.dataZoneLength (fun v => (ps v).map length) n
      (frames.map fun frame => frame.header.vcid)) :
    ∃ marked : List (Nat × List α), (p.extractAll frames).1 = marked.map Prod.snd ∧
      ∀ v, (marked.filter fun x => decide (x.1 = v)).map Prod.snd = todo v := by
  induction frames generalizing p n sent due todo current with
  | nil => exact ⟨[], rfl, fun v => (h.at_ v).todo_nil.symm⟩
  | cons frame frames ih =>
      obtain ⟨z, done, sent', due', todo', hcarries, hstep, htodo, hnext⟩ := h.step
      generalize hu : frame.header.vcid = u at *
      -- whichever channel was current, the buffer fits this one
      have hhere : p.reassemblyBuffer = sent u ∧ ∀ v, v ≠ u → sent v = [] := by
        rcases hfirst frame rfl with hcur | hcur
        · rw [hu] at hcur
          subst hcur
          exact ⟨hbuf, hothers⟩
        · have hall : ∀ v, sent v = [] := fun v => by
            by_cases hv : v = current
            · rw [hv, hcur]
            · exact hothers v hv
          exact ⟨by rw [hbuf, hcur, hall u], fun v _ => hall v⟩
      rw [← hformat, ← hhere.1] at hstep
      have hout := extractPackets_step (hformat ▸ hfmt) hstep hcarries
      have hnextFirst : ∀ g ∈ frames.head?,
          g.header.vcid = u ∨ update sent u sent' u = [] := by
        intro g hg
        cases frames with
        | nil => simp at hg
        | cons g' frames =>
            obtain rfl : g' = g := by simpa using hg
            rcases hclean.1 with heq | hbound
            · exact Or.inl (heq.symm.trans hu)
            · have hat := (hnext.at_ u).boundary_iff
              rw [update_self, ← hu] at hat
              exact Or.inr (by rw [← hu]; exact hat.mp hbound)
      have hnextClean : CleanSwitches fmt.dataZoneLength (fun v => (ps v).map length)
          (update n u (n u + 1)) (frames.map fun frame => frame.header.vcid) := by
        cases frames with
        | nil => trivial
        | cons g frames => exact hu ▸ hclean.2
      obtain ⟨marked, hmarked, hlanes⟩ := ih (p := { p with reassemblyBuffer := sent' }) hformat
        hnext u (by simp)
        (fun v hv => by simpa [hv] using hhere.2 v hv) hnextFirst hnextClean
      refine ⟨done.map (fun q => (u, q)) ++ marked, ?_, fun v => ?_⟩
      · simp [extractAll, hout, hmarked, comp_def]
      · have hrest := hlanes v
        by_cases hv : v = u
        · subst hv
          simp [filter_append, filter_map, comp_def, hrest, htodo]
        · rw [update_of_ne hv] at hrest
          simp [filter_append, filter_map, comp_def, hrest, Ne.symm hv]

/-! ### A broken switch loses a packet -/

/-- A zone that leaves a packet in progress ends with the last octet sent of it. -/
theorem ZoneStep.ends_in_sent {z : Zone α} (h : ZoneStep dz s d z done s' d') (hne : s' ≠ []) :
    ∃ front x before, z.data = front ++ [x] ∧ s' = before ++ [x] := by
  cases h with
  | @through cont _ _ hlen hpos _ =>
      obtain ⟨front, x, hcont⟩ : ∃ front x, cont = front ++ [x] :=
        (eq_nil_or_concat' cont).resolve_left (by rintro rfl; simp at hlen; omega)
      exact ⟨front, x, s ++ front, by simp [Zone.data, hcont], by simp [hcont]⟩
  | finish hopen hwhole hopen' hidle hpadHead hlen hcarries =>
      rename_i pad whole
      have hpad : pad = [] := by
        by_contra hp
        exact hne (hpadHead hp)
      obtain ⟨before, x, hs⟩ := (eq_nil_or_concat' s').resolve_left hne
      exact ⟨d ++ (whole.flatten ++ before), x, before, by simp [Zone.data, hpad, hs], hs⟩

/-- A zone starts with an octet of a packet. -/
theorem ZoneStep.starts_in_octets {z : Zone α} (h : ZoneStep dz s d z done s' d') :
    ∃ x rest, z.data = x :: rest ∧ x ∈ z.octets := by
  have hne : z.octets ≠ [] := by
    cases h with
    | @through cont _ _ hlen hpos _ =>
        have : cont ≠ [] := by
          rintro rfl
          simp only [length_nil] at hlen
          omega
        simpa [Zone.octets] using this
    | finish _ hwhole _ _ _ _ hcarries =>
        intro hnil
        simp only [Zone.octets, append_eq_nil_iff] at hnil
        obtain ⟨hd, hw, hs⟩ := hnil
        rcases hcarries with h | h | h
        · exact h hd
        · obtain ⟨q, hq⟩ := exists_mem_of_ne_nil _ h
          exact (hwhole q hq).ne_nil (flatten_eq_nil_iff.mp hw q hq)
        · exact h hs
  obtain ⟨x, rest, hx⟩ := exists_cons_of_ne_nil hne
  exact ⟨x, rest ++ z.pad, by rw [z.data_eq, hx, cons_append], by simp [hx]⟩

/-- Octets in a zone of a channel belong to a packet of the channel. -/
theorem LaneAt.octets_mem {vcid n m : Nat} {ps todo todo' : List (List α)}
    {fs gs : List (TMFrame α)} {z : Zone α} (h : LaneAt fmt vcid ps n s d fs todo)
    (htodo : todo = done ++ todo') (hstep : ZoneStep fmt.dataZoneLength s d z done s' d')
    (h' : LaneAt fmt vcid ps m s' d' gs todo') : ∀ x ∈ z.octets, x ∈ ps.flatten := by
  intro x hx
  have hx' : x ∈ done.flatten ++ s' := hstep.stream ▸ mem_append_right _ hx
  rcases mem_append.mp hx' with hx' | hx'
  · obtain ⟨q, hq, hxq⟩ := mem_flatten.mp hx'
    exact mem_flatten.mpr ⟨q, h.open_mem.2 q (by simp [htodo, hq]), hxq⟩
  · have hopen : inProgress s' d' = [s' ++ d'] := by
      simp [inProgress, ne_nil_of_mem hx']
    exact mem_flatten.mpr ⟨s' ++ d', h'.open_mem.2 _ (by simp [hopen]), by simp [hx']⟩

/-- **Where a switch breaks a packet.**  An octet of it is followed on the link by
one that is not its own. -/
theorem exists_broken_packet {fmt : FrameFormat} {ps todo : Nat → List (List α)}
    {n : Nat → Nat} {sent due : Nat → List α} {frames : List (TMFrame α)}
    (h : Lanes fmt ps n sent due frames todo)
    (hapart : ∀ v w, v ≠ w → ∀ x ∈ (ps v).flatten, x ∉ (ps w).flatten)
    (hbroken : ¬ CleanSwitches fmt.dataZoneLength (fun v => (ps v).map length) n
      (frames.map fun frame => frame.header.vcid)) :
    ∃ v packet before x y after front z back, packet ∈ ps v ∧
      packet = before ++ x :: y :: after ∧
      (frames.map TMFrame.data).flatten = front ++ x :: z :: back ∧ z ≠ y := by
  induction frames generalizing n sent due todo with
  | nil => exact absurd trivial hbroken
  | cons frame frames ih =>
      cases frames with
      | nil => exact absurd trivial hbroken
      | cons g frames =>
          obtain ⟨z, done, sent', due', todo', hcarries, hstep, htodo, hnext⟩ := h.step
          generalize hu : frame.header.vcid = u at *
          by_cases hswitch : u = g.header.vcid ∨
              AtBoundary ((ps u).map length) (fmt.dataZoneLength * (n u + 1))
          · have htail : ¬ CleanSwitches fmt.dataZoneLength (fun v => (ps v).map length)
                (update n u (n u + 1))
                ((g :: frames).map fun frame => frame.header.vcid) := fun hclean =>
              hbroken (by simpa only [map_cons, CleanSwitches, hu] using ⟨hswitch, hclean⟩)
            obtain ⟨v, packet, before, x, y, after, front, w, back, hmem, hpacket, hdata, hne⟩ :=
              ih hnext htail
            exact ⟨v, packet, before, x, y, after, frame.data ++ front, w, back, hmem, hpacket,
              by rw [map_cons, flatten_cons, hdata, append_assoc], hne⟩
          · rw [not_or] at hswitch
            obtain ⟨hne, hinside⟩ := hswitch
            have hown := hnext.at_ u
            simp only [update_self] at hown
            have hsent : sent' ≠ [] := fun hnil => hinside (hown.boundary_iff.mpr hnil)
            obtain ⟨front, x, before, hfdata, hs⟩ := hstep.ends_in_sent hsent
            obtain ⟨hopen, hpackets⟩ := hown.open_mem
            have hdue : due' ≠ [] := by
              rcases hopen with ⟨hnil, _⟩ | ⟨_, hdue, _⟩
              · exact absurd hnil hsent
              · exact hdue
            obtain ⟨y, after, hd⟩ := exists_cons_of_ne_nil hdue
            have hpacket : sent' ++ due' ∈ ps u :=
              hpackets _ (by simp [inProgress, hsent])
            -- the next frame belongs to another channel
            obtain ⟨zg, doneg, sg, dg, todog, hcarriesg, hstepg, htodog, hnextg⟩ := hnext.step
            obtain ⟨w, rest, hgdata, hw⟩ := hstepg.starts_in_octets
            have hglane := hnextg.at_ g.header.vcid
            simp only [update_self] at hglane
            have hwmem := (hnext.at_ g.header.vcid).octets_mem htodog hstepg hglane w hw
            refine ⟨u, sent' ++ due', before, x, y, after, front, w,
              rest ++ (frames.map TMFrame.data).flatten, hpacket, by simp [hs, hd], ?_, ?_⟩
            · simp [hcarries.1, hfdata, hcarriesg.1, hgdata]
            · rintro rfl
              refine hapart u g.header.vcid hne w ?_ hwmem
              exact mem_flatten.mpr ⟨_, hpacket, by simp [hd]⟩

/-! ### The exact condition -/

/-- At the start every frame of a channel is still to come. -/
theorem LaneAt.frames {vcid : Nat} {ps : List (List α)} {frames : List (TMFrame α)}
    (h : LaneAt fmt vcid ps 0 [] [] frames ps) :
    ∃ zs, Frames fmt vcid frames [] [] zs ps [] [] := by
  obtain ⟨_, _, zs, _, _, hframes, _⟩ := h.midway
  exact ⟨zs, hframes⟩

variable {ps : Nat → List (List α)}

/-- Frames of woven channels, and the octets in them. -/
theorem Lanes.mem_frame (hfmt : fmt.CarriesPackets) {frames : List (TMFrame α)}
    (h : Lanes fmt ps (fun _ => 0) (fun _ => []) (fun _ => []) frames ps) {frame : TMFrame α}
    (hmem : frame ∈ frames) :
    frame.SealedFor fmt frame.header.vcid ∧ frame.header.firstHeaderPointer < 2 ^ 11 ∧
      frame.isIdle = false ∧
      ∀ x ∈ frame.data, x = Octet.idle ∨ x ∈ (ps frame.header.vcid).flatten := by
  obtain ⟨zs, hframes⟩ := (h.at_ frame.header.vcid).frames
  have hlane : frame ∈ lane frame.header.vcid frames :=
    mem_filter.mpr ⟨hmem, decide_eq_true rfl⟩
  have hstream := hframes.run.stream
  rw [append_nil, nil_append] at hstream
  refine ⟨hframes.sealed frame hlane, (hframes.pointer_lt hfmt.1 frame hlane).1,
    (hframes.pointer_lt hfmt.1 frame hlane).2, fun x hx => ?_⟩
  rw [hstream]
  exact hframes.run.mem_frames hframes.carried hlane hx

variable [DecidableEq α]

/-- The octets of a channel among all octets on the link are those of its packets. -/
theorem Lanes.filter_data (hfmt : fmt.CarriesPackets) {frames : List (TMFrame α)}
    (h : Lanes fmt ps (fun _ => 0) (fun _ => []) (fun _ => []) frames ps)
    (hapart : ∀ v w, v ≠ w → ∀ x ∈ (ps v).flatten, x ∉ (ps w).flatten)
    (hidle : ∀ v, Octet.idle ∉ (ps v).flatten) (v : Nat) :
    (frames.map TMFrame.data).flatten.filter (fun x => decide (x ∈ (ps v).flatten)) =
      (ps v).flatten := by
  obtain ⟨zs, hframes⟩ := (h.at_ v).frames
  have hstream := hframes.run.stream
  rw [append_nil, nil_append] at hstream
  have hown : ∀ x ∈ ((lane v frames).map TMFrame.data).flatten,
      decide (x ∈ (ps v).flatten) = decide (x ≠ Octet.idle) := by
    intro x hx
    obtain ⟨data, hdata, hx⟩ := mem_flatten.mp hx
    obtain ⟨frame, hframe, rfl⟩ := mem_map.mp hdata
    rw [decide_eq_decide]
    refine ⟨fun hmem hx => hidle v (hx ▸ hmem), fun hne => ?_⟩
    have := (hframes.run.mem_frames hframes.carried hframe hx).resolve_left hne
    rwa [hstream]
  have hothers : ∀ fs : List (TMFrame α), (∀ f ∈ fs, f ∈ frames) →
      (fs.map TMFrame.data).flatten.filter (fun x => decide (x ∈ (ps v).flatten)) =
        ((lane v fs).map TMFrame.data).flatten.filter
          (fun x => decide (x ∈ (ps v).flatten)) := by
    intro fs hfs
    induction fs with
    | nil => rfl
    | cons f fs ih =>
        have hrest := ih fun g hg => hfs g (mem_cons_of_mem _ hg)
        by_cases hv : v = f.header.vcid
        · subst hv
          rw [lane_cons_self]
          simp only [map_cons, flatten_cons, filter_append, hrest]
        · have hnone : f.data.filter (fun x => decide (x ∈ (ps v).flatten)) = [] := by
            refine filter_eq_nil_iff.mpr fun x hx => ?_
            rcases (h.mem_frame hfmt (hfs f mem_cons_self)).2.2.2 x hx with rfl | hx
            · simpa using hidle v
            · simpa using hapart _ v (Ne.symm hv) x hx
          rw [lane_cons_of_ne hv]
          simp only [map_cons, flatten_cons, filter_append, hnone, hrest,
            nil_append]
  have hocts : Octet.idle ∉ (zs.map Zone.octets).flatten := hstream ▸ hidle v
  rw [hothers frames fun _ hf => hf, filter_congr hown,
    filter_frames_data hframes.run hframes.carried hocts, ← hstream]

/-- **Channels woven together.**  Every packet of every channel comes out, in the
order of its channel, exactly when no channel is left in the middle of a packet. -/
theorem Lanes.recovered_iff (hfmt : fmt.CarriesPackets) {frames : List (TMFrame α)}
    (h : Lanes fmt ps (fun _ => 0) (fun _ => []) (fun _ => []) frames ps)
    (hapart : ∀ v w, v ≠ w → ∀ x ∈ (ps v).flatten, x ∉ (ps w).flatten)
    (hidle : ∀ v, Octet.idle ∉ (ps v).flatten) (hnodup : ∀ v, (ps v).flatten.Nodup)
    (hne : ∀ v, ∀ q ∈ ps v, q ≠ []) {p : TMFrameParser α} (hformat : p.format = fmt)
    (hbuf : p.reassemblyBuffer = []) :
    (∀ v, (p.extractAll frames).1.filter (fun q => decide (q ∈ ps v)) = ps v) ↔
      CleanSwitches fmt.dataZoneLength (fun v => (ps v).map length) (fun _ => 0)
        (frames.map fun frame => frame.header.vcid) := by
  constructor
  · intro hall
    by_contra hbroken
    obtain ⟨v, packet, before, x, y, after, front, z, back, hmem, hpacket, hdata, hzy⟩ :=
      exists_broken_packet h hapart hbroken
    have hout : packet ∈ (p.extractAll frames).1 := by
      have := hall v ▸ hmem
      exact (mem_filter.mp this).1
    obtain ⟨left, right, hinfix⟩ := extractAll_infix p
      (fun f hf => (h.mem_frame hfmt hf).2.2.1) packet hout
    rw [hbuf, nil_append] at hinfix
    -- `x` occurs once on the link, so both sides agree on what follows it
    have hx : x ∈ (ps v).flatten := mem_flatten.mpr ⟨packet, hmem, by simp [hpacket]⟩
    have honce := h.filter_data hfmt hapart hidle v ▸ hnodup v
    have hfront : ∀ l r : List α, (frames.map TMFrame.data).flatten = l ++ x :: r → x ∉ l := by
      intro l r hl hxl
      rw [hl, filter_append, filter_cons_of_pos (by simpa using hx)] at honce
      exact (nodup_append.mp honce).2.2 x (mem_filter.mpr ⟨hxl, by simpa using hx⟩)
        x mem_cons_self rfl
    have hother : (frames.map TMFrame.data).flatten =
        (left ++ before) ++ x :: (y :: after ++ right) := by
      rw [← hinfix, hpacket]
      simp
    have htake := congrArg (dropWhile fun a => decide (a ≠ x)) (hdata.symm.trans hother)
    have hskip : ∀ l r : List α, x ∉ l →
        (l ++ x :: r).dropWhile (fun a => decide (a ≠ x)) = x :: r := by
      intro l r hl
      rw [dropWhile_append_of_pos (fun a ha => by
        simpa using fun hax : a = x => hl (hax ▸ ha))]
      simp
    rw [hskip _ _ (hfront _ _ hdata), hskip _ _ (hfront _ _ hother)] at htake
    simp only [cons_append, cons.injEq, true_and] at htake
    exact hzy htake.1
  · intro hclean v
    obtain ⟨marked, hmarked, hlanes⟩ := extractAll_clean hfmt hformat h 0 (by simpa using hbuf)
      (fun _ _ => rfl) (fun _ _ => Or.inr rfl) hclean
    rw [hmarked, filter_map, ← hlanes v]
    congr 1
    refine filter_congr fun x hx => ?_
    have hown : x.2 ∈ ps x.1 := by
      rw [← hlanes x.1]
      exact mem_map_of_mem (mem_filter.mpr ⟨hx, decide_eq_true rfl⟩)
    simp only [comp_apply, decide_eq_decide]
    rw [hlanes v]
    constructor
    · intro hmem
      by_contra hv
      obtain ⟨a, ha⟩ := exists_mem_of_ne_nil x.2 (hne x.1 x.2 hown)
      exact hapart x.1 v hv a (mem_flatten.mpr ⟨_, hown, ha⟩)
        (mem_flatten.mpr ⟨_, hmem, ha⟩)
    · rintro rfl
      exact hown

end Ccsds
