import Mathlib.Data.List.Basic

/-!
# Frames on a byte stream

A frame is a length in four bytes, the most significant first, and as many bytes of payload.
A writer that is interrupted leaves the first bytes of a frame, and the next frame follows
on them; a reader that loses its place takes any four bytes for a length.  For payloads of a
certain shape a frame that is read in such a place cannot be taken for one that was written.
-/

namespace Foundation.Framing

abbrev Bytes := List UInt8

/-! ## Reading and writing -/

/-- The number that four bytes stand for. -/
def number (a b c d : UInt8) : Nat :=
  ((a.toNat * 256 + b.toNat) * 256 + c.toNat) * 256 + d.toNat

def header (length : Nat) : Bytes :=
  [.ofNat (length / 16777216), .ofNat (length / 65536), .ofNat (length / 256), .ofNat length]

def frame (payload : Bytes) : Bytes := header payload.length ++ payload

inductive Reading where
  /-- More bytes are needed. -/
  | incomplete
  | tooLarge
  | frame (payload rest : Bytes)
  deriving DecidableEq, Repr

def readFrame (limit : Nat) : Bytes → Reading
  | a :: b :: c :: d :: rest =>
      if limit < number a b c d then .tooLarge
      else if rest.length < number a b c d then .incomplete
      else .frame (rest.take (number a b c d)) (rest.drop (number a b c d))
  | _ => .incomplete

section Reading

variable {limit : Nat} {given more payload rest : Bytes}

theorem number_header {length : Nat} (small : length < 4294967296) :
    number (.ofNat (length / 16777216)) (.ofNat (length / 65536)) (.ofNat (length / 256))
      (.ofNat length) = length := by
  simp only [number, UInt8.toNat_ofNat']
  omega

/-- What is read of a frame, once it is complete, is its payload. -/
theorem readFrame_frame (fits : payload.length ≤ limit) (small : limit < 4294967296) :
    readFrame limit (frame payload ++ rest) = .frame payload rest := by
  have length := number_header (Nat.lt_of_le_of_lt fits small)
  rw [frame, header, List.append_assoc]
  simp only [List.cons_append, List.nil_append, readFrame]
  rw [length, if_neg (Nat.not_lt.2 fits), if_neg (by simp)]
  simp

/-- Bytes that arrive later change nothing about a frame that was read. -/
theorem readFrame_append (read : readFrame limit given = .frame payload rest) :
    readFrame limit (given ++ more) = .frame payload (rest ++ more) := by
  match given, read with
  | a :: b :: c :: d :: tail, read =>
      rw [readFrame] at read
      simp only [List.cons_append, readFrame]
      split at read
      next => cases read
      next fits =>
        split at read
        next => cases read
        next enough =>
          have within : number a b c d ≤ tail.length := Nat.le_of_not_lt enough
          cases read
          rw [if_neg fits, if_neg (by rw [List.length_append]; omega),
            List.take_append_of_le_length within, List.drop_append_of_le_length within]

/-- What is read stands behind four bytes that give its length. -/
theorem readFrame_eq_frame (read : readFrame limit given = .frame payload rest) :
    ∃ a b c d, given = a :: b :: c :: d :: (payload ++ rest) ∧ number a b c d = payload.length ∧
      payload.length ≤ limit := by
  match given, read with
  | a :: b :: c :: d :: tail, read =>
      rw [readFrame] at read
      split at read
      next => cases read
      next fits =>
        split at read
        next => cases read
        next enough =>
          have within : number a b c d ≤ tail.length := Nat.le_of_not_lt enough
          cases read
          refine ⟨a, b, c, d, by rw [List.take_append_drop], ?_, ?_⟩
          · rw [List.length_take, Nat.min_eq_left within]
          · rw [List.length_take, Nat.min_eq_left within]
            exact Nat.le_of_not_lt fits

end Reading

/-! ## Streams of frames that may be cut short -/

/-- A payload, and how many bytes of its frame are written. -/
structure Chunk where
  payload : Bytes
  cut : Nat

def Chunk.bytes (chunk : Chunk) : Bytes := (frame chunk.payload).take chunk.cut

/-- All bytes of the frame are written. -/
def Chunk.IsWhole (chunk : Chunk) : Prop := (frame chunk.payload).length ≤ chunk.cut

def stream (chunks : List Chunk) : Bytes := chunks.flatMap Chunk.bytes

/-- A place in a concatenation is a place in one of its parts. -/
theorem exists_part {α β : Type} {part : α → List β} {items : List α} {before after : List β}
    {x : β} (parts : items.flatMap part = before ++ x :: after) :
    ∃ front item back left right, items = front ++ item :: back ∧
      part item = left ++ x :: right ∧ before = front.flatMap part ++ left ∧
      after = right ++ back.flatMap part := by
  induction items generalizing before with
  | nil => simp at parts
  | cons item rest ih =>
      rw [List.flatMap_cons] at parts
      cases List.append_eq_append_iff.1 parts with
      | inl inRest =>
          obtain ⟨more, isBefore, others⟩ := inRest
          obtain ⟨front, found, back, left, right, items, isPart, isMore, isAfter⟩ := ih others
          refine ⟨item :: front, found, back, left, right, by rw [items, List.cons_append], isPart,
            ?_, isAfter⟩
          rw [isBefore, isMore, List.flatMap_cons, List.append_assoc]
      | inr inItem =>
          obtain ⟨more, isItem, others⟩ := inItem
          cases more with
          | nil =>
              have inRest : rest.flatMap part = [] ++ x :: after := others.symm
              obtain ⟨front, found, back, left, right, items, isPart, isMore, isAfter⟩ := ih inRest
              refine ⟨item :: front, found, back, left, right, by rw [items, List.cons_append],
                isPart, ?_, isAfter⟩
              rw [List.flatMap_cons, List.append_assoc, ← isMore, List.append_nil, isItem,
                List.append_nil]
          | cons first more =>
              rw [List.cons_append, List.cons.injEq] at others
              exact ⟨[], item, rest, before, more, rfl, by rw [isItem, others.1], rfl, others.2⟩

/-! ## Payloads of a certain shape -/

/-- A payload that starts with three given bytes and has no control characters. -/
structure Shaped (limit : Nat) (p q r : UInt8) (payload : Bytes) : Prop where
  opening : ∃ rest, payload = p :: q :: r :: rest
  printed : ∀ byte ∈ payload, 0x20 ≤ byte
  fits : payload.length ≤ limit

/-- What tells a payload from other bytes of the stream: it has no zero byte and does not
start like the third byte of a payload, it is no payload that is cut short behind up to three
other bytes, and only plain characters can stand before a payload. -/
structure Acceptable (r : UInt8) (chunks : List Chunk) (body : Bytes) : Prop where
  nonempty : body ≠ []
  clean : 0 ∉ body
  letter : body.head? ≠ some r
  cut : ∀ chunk ∈ chunks, ∀ stray front, stray.length ≤ 3 → front <+: chunk.payload →
    front ≠ chunk.payload → body ≠ stray ++ front
  plain : ∀ chunk ∈ chunks, ∀ stray, stray.length ≤ 3 → body = stray ++ chunk.payload →
    ∀ byte ∈ stray, byte < 0x80

theorem header_small {length : Nat} (small : length < 16777216) :
    ∃ b c d : UInt8, header length = [0, b, c, d] ∧
      (b.toNat * 256 + c.toNat) * 256 + d.toNat = length := by
  refine ⟨.ofNat (length / 65536), .ofNat (length / 256), .ofNat length, ?_, ?_⟩
  · rw [header, Nat.div_eq_of_lt small]
    rfl
  · simp only [UInt8.toNat_ofNat']
    omega

section Shaped

variable {limit : Nat} {p q r : UInt8} {chunks : List Chunk}

/-- The limit is less than what three bytes of a payload give for a length. -/
theorem limit_small (large : limit < number 0 p q r) : limit < 16777216 := by
  have bounds := And.intro p.toNat_lt (And.intro q.toNat_lt r.toNat_lt)
  simp only [number, UInt8.toNat_zero] at large
  omega

/-- A stream starts with a zero byte. -/
theorem head?_stream (large : limit < number 0 p q r)
    (shaped : ∀ chunk ∈ chunks, Shaped limit p q r chunk.payload) :
    ∀ byte ∈ (stream chunks).head?, byte = 0 := by
  intro byte isHead
  induction chunks with
  | nil => cases isHead
  | cons chunk rest ih =>
      have fits := (shaped chunk List.mem_cons_self).fits
      obtain ⟨b, c, d, isHeader, _⟩ := header_small
        (Nat.lt_of_le_of_lt fits (limit_small large))
      rw [stream, List.flatMap_cons, Chunk.bytes, frame, isHeader] at isHead
      cases cut : chunk.cut with
      | zero =>
          rw [cut] at isHead
          exact ih (fun other member => shaped other (List.mem_cons_of_mem _ member)) isHead
      | succ count =>
          rw [cut] at isHead
          exact (Option.some.inj isHead).symm

/-- A body without a zero byte does not go on from one chunk to the next. -/
theorem prefix_of_clean {bs after v : Bytes} (clean : 0 ∉ bs) (large : limit < number 0 p q r)
    (shaped : ∀ chunk ∈ chunks, Shaped limit p q r chunk.payload)
    (same : bs ++ after = v ++ stream chunks) : bs <+: v := by
  cases List.append_eq_append_iff.1 same with
  | inl inside =>
      obtain ⟨more, isV, _⟩ := inside
      exact ⟨more, isV.symm⟩
  | inr beyond =>
      obtain ⟨more, isBody, isStream⟩ := beyond
      cases more with
      | nil => exact ⟨[], by rw [isBody, List.append_nil, List.append_nil]⟩
      | cons first more =>
          have zero : first = 0 := by
            apply head?_stream large shaped
            rw [isStream]
            rfl
          exact absurd (by rw [isBody, zero]; simp) clean

/-! ### Where a body can start

The bytes of a chunk before the body are `left`; the four bytes `a`, `b`, `c` and `d` before
the body give its length. -/

section Places

variable {payload body left before stem : Bytes} {a b c d : UInt8}

/-- The last bytes of the length are the header's, when the body starts inside it. -/
theorem length_inside (ends : before ++ [a, b, c, d] = stem ++ left) :
    (∀ u, left = [u] → d = u) ∧ (∀ u v, left = [u, v] → c = u ∧ d = v) ∧
      (∀ u v w, left = [u, v, w] → b = u ∧ c = v ∧ d = w) := by
  refine ⟨?_, ?_, ?_⟩
  · intro u isLeft
    have same : (before ++ [a, b, c]) ++ [d] = stem ++ [u] := by simpa [isLeft] using ends
    have last := (List.append_inj' same rfl).2
    simpa using last
  · intro u v isLeft
    have same : (before ++ [a, b]) ++ [c, d] = stem ++ [u, v] := by simpa [isLeft] using ends
    have last := (List.append_inj' same rfl).2
    simpa using last
  · intro u v w isLeft
    have same : (before ++ [a]) ++ [b, c, d] = stem ++ [u, v, w] := by simpa [isLeft] using ends
    have last := (List.append_inj' same rfl).2
    simpa using last

/-- The body does not start inside the header: it would be a payload that is cut short, or
one behind bytes that are not plain. -/
theorem not_inside_header {stray front : Bytes} (large : limit < number 0 p q r)
    (shaped : Shaped limit p q r payload) (fits : body.length ≤ limit)
    (length : number a b c d = body.length)
    (ends : before ++ [a, b, c, d] = stem ++ left)
    (isHeader : left ++ stray = header payload.length) (inside : left ≠ [])
    (outside : stray ≠ []) (clean : 0 ∉ stray) (isBody : body = stray ++ front)
    (plain : front = payload → ∀ byte ∈ stray, byte < 0x80) :
    front ≠ payload := by
  intro whole
  obtain ⟨x, y, z, header, isLength⟩ := header_small
    (Nat.lt_of_le_of_lt shaped.fits (limit_small large))
  rw [header] at isHeader
  have small := plain whole
  have total : body.length = stray.length + payload.length := by
    rw [isBody, List.length_append, whole]
  have numbers := length_inside ends
  rw [total, number] at length
  have limited := limit_small large
  rw [total] at fits
  match left, stray, isHeader with
  | [u], [v, w, t], isHeader =>
      simp only [List.cons_append, List.nil_append, List.cons.injEq, and_true] at isHeader
      obtain ⟨rfl, rfl, rfl, rfl⟩ := isHeader
      have isZero := numbers.1 _ rfl
      have below := small t (by simp)
      rw [UInt8.lt_iff_toNat_lt] at below
      simp [isZero] at length below
      omega
  | [u, v], [w, t], isHeader =>
      simp only [List.cons_append, List.nil_append, List.cons.injEq, and_true] at isHeader
      obtain ⟨rfl, rfl, rfl, rfl⟩ := isHeader
      have isZero := (numbers.2.1 _ _ rfl).1
      have below := small t (by simp)
      rw [UInt8.lt_iff_toNat_lt] at below
      have positive : w.toNat ≠ 0 := fun zero =>
        clean (by rw [← UInt8.toNat_inj.1 (zero.trans UInt8.toNat_zero.symm)]; simp)
      have bounds := And.intro w.toNat_lt (And.intro v.toNat_lt d.toNat_lt)
      simp [isZero] at length below
      omega
  | [u, v, w], [t], isHeader =>
      simp only [List.cons_append, List.nil_append, List.cons.injEq, and_true] at isHeader
      obtain ⟨rfl, rfl, rfl, rfl⟩ := isHeader
      have isZero := numbers.2.2 _ _ _ rfl
      simp [isZero] at length fits
      have first : a.toNat = 0 := by omega
      rw [first] at length
      omega
  | [u, v, w, t], [], isHeader => exact absurd rfl outside

theorem exists_last_four (ends : before ++ [a, b, c, d] = stem ++ left) (long : 4 ≤ left.length) :
    ∃ most, left = most ++ [a, b, c, d] := by
  refine ⟨left.take (left.length - 4), ?_⟩
  have split : before ++ [a, b, c, d] =
      (stem ++ left.take (left.length - 4)) ++ left.drop (left.length - 4) := by
    rw [List.append_assoc, List.take_append_drop, ends]
  have four : [a, b, c, d].length = (left.drop (left.length - 4)).length := by
    rw [List.length_drop, Nat.sub_sub_self long]
    rfl
  rw [(List.append_inj' split four).2, List.take_append_drop]

/-- The body does not start inside a payload either. -/
theorem not_inside_payload (large : limit < number 0 p q r)
    (shaped : Shaped limit p q r payload) (length : number a b c d = body.length)
    (fits : body.length ≤ limit) (ends : before ++ [a, b, c, d] = stem ++ left)
    (letter : body.head? ≠ some r) (nonempty : body ≠ [])
    (isPrefix : left ++ body <+: frame payload) (beyond : 4 < left.length) : False := by
  obtain ⟨x, y, z, header, isLength⟩ := header_small
    (Nat.lt_of_le_of_lt shaped.fits (limit_small large))
  obtain ⟨rest, opening⟩ := shaped.opening
  obtain ⟨most, rfl⟩ := exists_last_four ends (Nat.le_of_lt beyond)
  have limited := limit_small large
  have short := isPrefix.length_le
  rw [frame, header] at isPrefix short
  rw [← length, number] at fits
  rw [number] at length
  match most, beyond with
  | [], beyond => exact absurd beyond (by simp)
  | [_], _ =>
      rw [opening] at isPrefix
      simp only [List.cons_append, List.nil_append, List.cons_prefix_cons] at isPrefix
      obtain ⟨_, rfl, rfl, rfl, rfl, _⟩ := isPrefix
      simp only [List.length_append, List.length_cons, List.length_nil] at short
      omega
  | [_, _], _ =>
      rw [opening] at isPrefix
      simp only [List.cons_append, List.nil_append, List.cons_prefix_cons] at isPrefix
      obtain ⟨_, _, rfl, rfl, rfl, rfl, starts⟩ := isPrefix
      cases body with
      | nil => exact nonempty rfl
      | cons first body =>
          rw [List.cons_prefix_cons] at starts
          exact letter (congrArg some starts.1)
  | [_, _, _], _ =>
      rw [opening] at isPrefix
      simp only [List.cons_append, List.nil_append, List.cons_prefix_cons] at isPrefix
      obtain ⟨_, _, _, rfl, rfl, rfl, rfl, _⟩ := isPrefix
      simp only [number, UInt8.toNat_zero] at large
      omega
  | _ :: _ :: _ :: _ :: most, _ =>
      simp only [List.cons_append, List.nil_append, List.cons_prefix_cons] at isPrefix
      have inside : a ∈ payload := isPrefix.2.2.2.2.subset (by simp)
      have printed := shaped.printed a inside
      rw [UInt8.le_iff_toNat_le] at printed
      have control : (0x20 : UInt8).toNat = 32 := rfl
      omega

end Places

theorem length_header (length : Nat) : (header length).length = 4 := rfl

/-- A body that starts in the header of a chunk is not acceptable. -/
theorem not_acceptable_of_inside {chunk : Chunk} {body left before stem : Bytes} {a b c d : UInt8}
    (large : limit < number 0 p q r) (shaped : Shaped limit p q r chunk.payload)
    (member : chunk ∈ chunks) (length : number a b c d = body.length) (fits : body.length ≤ limit)
    (ends : before ++ [a, b, c, d] = stem ++ left)
    (isPrefix : left ++ body <+: frame chunk.payload) (inside : left.length < 4) :
    ¬Acceptable r chunks body := by
  intro accepted
  obtain ⟨rest, opening⟩ := shaped.opening
  have notEmpty : chunk.payload ≠ [] := by simp [opening]
  have inHeader : left <+: header chunk.payload.length :=
    List.prefix_of_prefix_length_le ((List.prefix_append _ _).trans isPrefix)
      (List.prefix_append _ _) (Nat.le_of_lt inside)
  obtain ⟨stray, isHeader⟩ := inHeader
  have short : left.length + stray.length = 4 := by
    rw [← List.length_append, isHeader, length_header]
  rw [frame, ← isHeader, List.append_assoc, List.prefix_append_right_inj] at isPrefix
  have started : left ≠ [] := by
    intro isNil
    obtain ⟨x, y, z, header, _⟩ := header_small
      (Nat.lt_of_le_of_lt shaped.fits (limit_small large))
    rw [isNil, header, List.nil_append] at isHeader
    cases body with
    | nil => exact accepted.nonempty rfl
    | cons first body =>
        rw [isHeader, List.cons_append, List.cons_prefix_cons] at isPrefix
        exact accepted.clean (isPrefix.1 ▸ List.mem_cons_self)
  have few : stray.length ≤ 3 := by
    have positive := List.length_pos_iff.2 started
    omega
  cases List.prefix_or_prefix_of_prefix isPrefix (List.prefix_append stray chunk.payload) with
  | inl before =>
      exact accepted.cut chunk member body [] (Nat.le_trans before.length_le few) List.nil_prefix
        notEmpty.symm (List.append_nil body).symm
  | inr beyond =>
      obtain ⟨front, isBody⟩ := beyond
      rw [← isBody, List.prefix_append_right_inj] at isPrefix
      have outside : stray ≠ [] := by
        intro isNil
        rw [isNil, List.length_nil] at short
        omega
      have different : front ≠ chunk.payload :=
        not_inside_header large shaped fits length ends isHeader started outside
          (fun zero => accepted.clean (by rw [← isBody]; exact List.mem_append_left _ zero))
          isBody.symm
          fun whole => accepted.plain chunk member stray few (by rw [← isBody, whole])
      exact accepted.cut chunk member stray front few isPrefix different isBody.symm

/-- A frame that is read anywhere in a stream, with a body that is acceptable, is one that
was written as a whole. -/
theorem written_of_read (large : limit < number 0 p q r)
    (shaped : ∀ chunk ∈ chunks, Shaped limit p q r chunk.payload)
    {before rest body after : Bytes} (position : stream chunks = before ++ rest)
    (read : readFrame limit rest = .frame body after) (accepted : Acceptable r chunks body) :
    ∃ front chunk back, chunks = front ++ chunk :: back ∧ chunk.IsWhole ∧
      before = stream front ∧ body = chunk.payload := by
  obtain ⟨a, b, c, d, isRest, length, fits⟩ := readFrame_eq_frame read
  cases isBody : body with
  | nil => exact absurd isBody accepted.nonempty
  | cons x tail =>
      have place : stream chunks = (before ++ [a, b, c, d]) ++ x :: (tail ++ after) := by
        rw [position, isRest, isBody]
        simp
      obtain ⟨front, chunk, back, left, right, isChunks, isBytes, ends, goesOn⟩ := exists_part place
      have inBack (other : Chunk) (member : other ∈ back) : other ∈ chunks := by
        rw [isChunks]
        exact List.mem_append_right _ (List.mem_cons_of_mem _ member)
      have here : chunk ∈ chunks := by
        rw [isChunks]
        exact List.mem_append_right _ List.mem_cons_self
      have shape := shaped chunk here
      have noZero : 0 ∉ tail := fun zero =>
        accepted.clean (isBody ▸ List.mem_cons_of_mem _ zero)
      have within : left ++ body <+: chunk.bytes := by
        rw [isBytes, isBody, List.prefix_append_right_inj, List.cons_prefix_cons]
        exact ⟨rfl, prefix_of_clean noZero large
          (fun other member => shaped other (inBack other member)) goesOn⟩
      have isPrefix := within.trans (List.take_prefix _ _)
      rcases Nat.lt_trichotomy left.length 4 with inside | exact4 | beyond
      · exact absurd accepted
          (not_acceptable_of_inside large shape here length fits ends isPrefix inside)
      · obtain ⟨isStem, isLeft⟩ := List.append_inj' ends exact4.symm
        rw [frame, ← isLeft] at isPrefix
        have isHeader : [a, b, c, d] = header chunk.payload.length :=
          (List.prefix_of_prefix_length_le ((List.prefix_append _ _).trans isPrefix)
            (List.prefix_append _ _) (Nat.le_refl 4)).eq_of_length rfl
        have isLength : number a b c d = chunk.payload.length := by
          have four := number_header (Nat.lt_of_le_of_lt shape.fits
            (Nat.lt_trans (limit_small large) (by decide)))
          simp only [header, List.cons.injEq, and_true] at isHeader
          obtain ⟨rfl, rfl, rfl, rfl⟩ := isHeader
          exact four
        rw [isHeader, List.prefix_append_right_inj] at isPrefix
        have same : body = chunk.payload := isPrefix.eq_of_length (length ▸ isLength)
        refine ⟨front, chunk, back, isChunks, ?_, isStem, isBody ▸ same⟩
        have long := within.length_le
        rw [Chunk.bytes, List.length_take, List.length_append, exact4, same] at long
        rw [Chunk.IsWhole, frame, List.length_append, length_header]
        omega
      · exact (not_inside_payload large shape length fits ends accepted.letter accepted.nonempty
          isPrefix beyond).elim

end Shaped

end Foundation.Framing
