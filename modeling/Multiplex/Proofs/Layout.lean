import Multiplex.Proofs.Spelling

/-! How the arguments of the closing methods and of basic.return lie on the wire. Where a field
begins depends on what the fields before it say of their length, so a layout is read piece by piece:
either each field is there whole, or there is a first one that is cut off. The decoders accept just
the former, take nothing from behind it, and name the latter. -/

namespace Multiplex

open Octets

/-- Where an argument field ends: behind two octets, or behind as many as the first one tells. -/
inductive ArgumentShape
  | number | string

namespace ArgumentShape

/-- Octets that are a field, no less and no more. -/
def Whole : ArgumentShape → Octets → Prop
  | number, piece => piece.length = 2
  | string, piece => ∃ n body, piece = n :: body ∧ body.length = n.toNat

/-- There is less of a field than the whole. -/
def Missing (shape : ArgumentShape) (bs : Octets) : Prop :=
  ∀ piece, piece <+: bs → ¬ shape.Whole piece

def Spelled : ArgumentShape → Octets → Prop
  | number, _ => True
  | string, piece => ∃ s, piece.tail = Utf8.encode s

end ArgumentShape

open ArgumentShape

abbrev ArgumentLayout := List (ArgumentField × ArgumentShape)

namespace ArgumentLayout

/-- Pieces that are the fields of a layout. -/
def Holds (layout : ArgumentLayout) (pieces : List Octets) : Prop :=
  List.Forall₂ (fun field piece => field.2.Whole piece) layout pieces

/-- Octets that hold the fields in front of one, but not that one. -/
inductive CutOff : ArgumentLayout → Octets → ArgumentField → Prop
  | here {field : ArgumentField} {shape : ArgumentShape} {later : ArgumentLayout} {bs : Octets}
    (missing : shape.Missing bs) :
    CutOff ((field, shape) :: later) bs field
  | later {field missing : ArgumentField} {shape : ArgumentShape} {later : ArgumentLayout}
    {piece bs : Octets} (whole : shape.Whole piece) (cut : CutOff later bs missing) :
    CutOff ((field, shape) :: later) (piece ++ bs) missing

theorem holds_or_cutOff (layout : ArgumentLayout) (bs : Octets) :
    (∃ pieces, layout.Holds pieces ∧ pieces.flatten <+: bs) ∨ ∃ field, layout.CutOff bs field := by
  induction layout generalizing bs with
  | nil => exact .inl ⟨[], .nil, List.nil_prefix⟩
  | cons field later ih =>
    by_cases there : ∃ piece, piece <+: bs ∧ field.2.Whole piece
    · obtain ⟨piece, ⟨rest, rfl⟩, whole⟩ := there
      rcases ih rest with ⟨pieces, holds, begins⟩ | ⟨missing, cut⟩
      · exact .inl ⟨piece :: pieces, .cons whole holds, (List.prefix_append_right_inj piece).mpr begins⟩
      · exact .inr ⟨missing, .later whole cut⟩
    · exact .inr ⟨field.1, .here fun piece begins whole => there ⟨piece, begins, whole⟩⟩

/-- The texts in some pieces are UTF-8. -/
def Spelled (layout : ArgumentLayout) (pieces : List Octets) : Prop :=
  List.Forall₂ (fun field piece => field.2.Spelled piece) layout pieces

/-- A decoder that accepts just the octets in whose beginning all fields are whole, whatever stands
behind them, and names the first field that is cut off in others. Fields that are spelled are
written as they were read. -/
structure Governs {α : Type} (layout : ArgumentLayout) (decode : Octets → Except FrameError α)
    (encode : α → Octets) : Prop where
  accepts : ∀ bs, (∃ r, decode bs = .ok r) ↔
    ∃ pieces, layout.Holds pieces ∧ pieces.flatten <+: bs
  behind : ∀ pieces rest, layout.Holds pieces →
    decode (pieces.flatten ++ rest) = decode pieces.flatten
  refuses : ∀ bs e, decode bs = .error e ↔
    ∃ field, layout.CutOff bs field ∧ e = .malformed (.truncatedAt field)
  restores : ∀ pieces rest r, layout.Holds pieces → layout.Spelled pieces →
    decode (pieces.flatten ++ rest) = .ok r → encode r = pieces.flatten

theorem Governs.of_pieces {α : Type} {layout : ArgumentLayout}
    {decode : Octets → Except FrameError α} {encode : α → Octets}
    (whole : ∀ pieces, layout.Holds pieces → ∃ r,
      (∀ rest, decode (pieces.flatten ++ rest) = .ok r) ∧
      (layout.Spelled pieces → encode r = pieces.flatten))
    (cut : ∀ bs field, layout.CutOff bs field → decode bs = ArgumentReader.truncated field) :
    layout.Governs decode encode where
  accepts bs := by
    constructor
    · rintro ⟨r, ok⟩
      refine (layout.holds_or_cutOff bs).resolve_right ?_
      rintro ⟨field, missing⟩
      cases ok.symm.trans (cut bs field missing)
    · rintro ⟨pieces, holds, rest, rfl⟩
      obtain ⟨r, ok, -⟩ := whole pieces holds
      exact ⟨r, ok rest⟩
  behind pieces rest holds := by
    obtain ⟨r, ok, -⟩ := whole pieces holds
    have alone := ok []
    rw [List.append_nil] at alone
    rw [ok rest, alone]
  refuses bs e := by
    constructor
    · intro error
      rcases layout.holds_or_cutOff bs with ⟨pieces, holds, rest, rfl⟩ | ⟨field, missing⟩
      · obtain ⟨r, ok, -⟩ := whole pieces holds
        cases error.symm.trans (ok rest)
      · exact ⟨field, missing, Except.error.inj (error.symm.trans (cut bs field missing))⟩
    · rintro ⟨field, missing, rfl⟩
      exact cut bs field missing
  restores pieces rest r holds spelled ok := by
    obtain ⟨s, read, restored⟩ := whole pieces holds
    obtain rfl : r = s := Except.ok.inj (ok.symm.trans (read rest))
    exact restored spelled

end ArgumentLayout

/-- A field of some arguments: where it ends, what its octets say, and how it is read and written. -/
structure ArgumentCodec (α : Type) where
  field : ArgumentField
  shape : ArgumentShape
  said : Octets → α
  read : ArgumentReader α
  write : α → Octets
  takes : ∀ {piece} (rest), shape.Whole piece → read (piece ++ rest) = .ok (said piece, rest)
  misses : ∀ {bs}, shape.Missing bs → read bs = ArgumentReader.truncated field
  fills : ∀ a, shape.Whole (write a)
  restores : ∀ {piece}, shape.Whole piece → shape.Spelled piece → write (said piece) = piece

namespace ArgumentCodec

def short (field : ArgumentField) : ArgumentCodec UInt16 where
  field := field
  shape := .number
  said piece := UInt16.ofNat (value piece)
  read := ArgumentReader.short field
  write n := bigEndian 2 n.toNat
  takes {piece} rest whole := by
    obtain ⟨a, b, rfl⟩ := List.length_eq_two.mp whole
    rfl
  misses {bs} missing := by
    match bs with
    | [] | [_] => rfl
    | a :: b :: rest => exact absurd rfl (missing [a, b] ⟨rest, rfl⟩)
  fills n := length_bigEndian 2 n.toNat
  restores whole _ := bigEndian_ofNat_value16 whole

def text (field : ArgumentField) : ArgumentCodec String where
  field := field
  shape := .string
  said piece := Utf8.decode piece.tail
  read := ArgumentReader.text field
  write := ShortString.encode
  takes {piece} rest whole := by
    obtain ⟨n, body, rfl, length⟩ := whole
    rw [List.cons_append, ArgumentReader.text, if_neg (by rw [List.length_append]; omega), ← length,
      List.take_left, List.drop_left, List.tail_cons]
  misses {bs} missing := by
    match bs with
    | [] => rfl
    | n :: rest =>
      refine if_pos (Nat.lt_of_not_le fun enough => ?_)
      refine missing (n :: rest.take n.toNat) ?_ ⟨n, _, rfl, List.length_take_of_le enough⟩
      exact List.cons_prefix_cons.mpr ⟨rfl, List.take_prefix _ _⟩
  fills s := ⟨_, _, ShortString.encode_eq s, (ShortString.toNat_length s).symm⟩
  restores {piece} whole spelled := by
    obtain ⟨n, body, rfl, length⟩ := whole
    obtain ⟨s, rfl : body = Utf8.encode s⟩ := spelled
    have fits : (Utf8.encode s).length ≤ 255 := length ▸ Nat.le_of_lt_succ n.toNat_lt
    rw [List.tail_cons, Utf8.decode_written, ShortString.encode_eq, ShortString.cut_of_fits fits,
      length, UInt8.ofNat_toNat]

section InTurn

variable {α β γ δ ε : Type} {A : ArgumentCodec α} {B : ArgumentCodec β} {C : ArgumentCodec γ}
  {D : ArgumentCodec δ} {make : α → β → γ → δ → ε} {encode : ε → Octets} {a b c d bs : Octets}

def layout (A : ArgumentCodec α) (B : ArgumentCodec β) (C : ArgumentCodec γ)
    (D : ArgumentCodec δ) : ArgumentLayout :=
  [(A.field, A.shape), (B.field, B.shape), (C.field, C.shape), (D.field, D.shape)]

/-- Four fields in turn. What stands behind them is not looked at. -/
def inTurn (A : ArgumentCodec α) (B : ArgumentCodec β) (C : ArgumentCodec γ) (D : ArgumentCodec δ)
    (make : α → β → γ → δ → ε) (bs : Octets) : Except FrameError ε := do
  let (a, bs) ← A.read bs
  let (b, bs) ← B.read bs
  let (c, bs) ← C.read bs
  let (d, _) ← D.read bs
  return make a b c d

theorem inTurn_pieces (ha : A.shape.Whole a) (hb : B.shape.Whole b) (hc : C.shape.Whole c)
    (hd : D.shape.Whole d) (rest : Octets) :
    inTurn A B C D make ([a, b, c, d].flatten ++ rest) =
      .ok (make (A.said a) (B.said b) (C.said c) (D.said d)) := by
  have all : [a, b, c, d].flatten ++ rest = a ++ (b ++ (c ++ (d ++ rest))) := by simp
  simp only [inTurn, bind, Except.bind, takes, *]
  rfl

theorem inTurn_cutOff {missing : ArgumentField} (cut : (layout A B C D).CutOff bs missing) :
    inTurn A B C D make bs = ArgumentReader.truncated missing := by
  rcases cut with missing | ⟨ha, missing | ⟨hb, missing | ⟨hc, missing | ⟨hd, cut⟩⟩⟩⟩
  case later.later.later.later => cases cut
  all_goals
    simp only [inTurn, bind, Except.bind, takes, misses, ArgumentReader.truncated, *]

theorem governs_inTurn
    (written : ∀ a b c d, encode (make a b c d) =
      A.write a ++ B.write b ++ C.write c ++ D.write d) :
    (layout A B C D).Governs (inTurn A B C D make) encode := by
  refine .of_pieces (fun pieces holds => ?_) fun _ _ => inTurn_cutOff
  match pieces, holds with
  | [a, b, c, d], .cons ha (.cons hb (.cons hc (.cons hd .nil))) =>
    refine ⟨make (A.said a) (B.said b) (C.said c) (D.said d), inTurn_pieces ha hb hc hd, ?_⟩
    rintro (_ | ⟨sa, _ | ⟨sb, _ | ⟨sc, _ | ⟨sd, -⟩⟩⟩⟩)
    rw [written, A.restores ha sa, B.restores hb sb, C.restores hc sc, D.restores hd sd]
    simp

theorem inTurn_written (a : α) (b : β) (c : γ) (d : δ) (rest : Octets) :
    inTurn A B C D make (A.write a ++ B.write b ++ C.write c ++ D.write d ++ rest) =
      .ok (make (A.said (A.write a)) (B.said (B.write b)) (C.said (C.write c))
        (D.said (D.write d))) := by
  have read : inTurn A B C D make
      ([A.write a, B.write b, C.write c, D.write d].flatten ++ rest) = _ :=
    inTurn_pieces (A.fills a) (B.fills b) (C.fills c) (D.fills d) rest
  simpa using read

end InTurn

theorem said_short (field : ArgumentField) (n : UInt16) :
    (short field).said ((short field).write n) = n :=
  ofNat_value_bigEndian16 n

theorem said_text (field : ArgumentField) (s : String) :
    (text field).said ((text field).write s) = ShortString.cut s := by
  have written : (text field).write s = _ := ShortString.encode_eq s
  rw [written]
  exact Utf8.decode_written (ShortString.cut s)

end ArgumentCodec

namespace CloseReason

def layout : ArgumentLayout :=
  [(.replyCode, .number), (.replyText, .string), (.classId, .number), (.methodId, .number)]

theorem decode_eq : decode = ArgumentCodec.inTurn (.short .replyCode) (.text .replyText)
    (.short .classId) (.short .methodId) mk := rfl

theorem governs : layout.Governs decode encode := by
  rw [decode_eq]
  exact ArgumentCodec.governs_inTurn (A := .short .replyCode) (B := .text .replyText)
    (C := .short .classId) (D := .short .methodId) fun _ _ _ _ => rfl

/-- The third octet tells how much there must be. -/
theorem holds_iff (bs : Octets) : (∃ pieces, layout.Holds pieces ∧ pieces.flatten <+: bs) ↔
    ∃ n, bs[2]? = some n ∧ 7 + n.toNat ≤ bs.length := by
  constructor
  · rintro ⟨pieces, holds, rest, rfl⟩
    match pieces, holds with
    | [a, b, c, d], .cons ha (.cons hb (.cons hc (.cons hd .nil))) =>
      obtain ⟨x, y, rfl⟩ := List.length_eq_two.mp ha
      obtain ⟨n, body, rfl, length⟩ := hb
      have hc : c.length = 2 := hc
      have hd : d.length = 2 := hd
      refine ⟨n, rfl, ?_⟩
      simp only [List.flatten_cons, List.length_append, List.length_cons]
      omega
  · rintro ⟨n, third, enough⟩
    match bs, third with
    | x :: y :: _ :: rest, rfl =>
      simp only [List.length_cons] at enough
      have body : (rest.take n.toNat).length = n.toNat := List.length_take_of_le (by omega)
      refine ⟨[[x, y], n :: rest.take n.toNat, (rest.drop n.toNat).take 2,
        ((rest.drop n.toNat).drop 2).take 2], ?_, ((rest.drop n.toNat).drop 2).drop 2, ?_⟩
      · refine .cons rfl (.cons ⟨n, _, rfl, body⟩ (.cons ?_ (.cons ?_ .nil)))
        all_goals
          refine List.length_take_of_le ?_
          simp only [List.length_drop]
          omega
      · simp only [List.flatten_cons, List.flatten_nil, List.append_nil, List.append_assoc,
          List.cons_append, List.nil_append, List.take_append_drop]

theorem decode_written (r : CloseReason) (rest : Octets) :
    decode (r.encode ++ rest) = .ok { r with text := ShortString.cut r.text } := by
  rw [decode_eq]
  refine (ArgumentCodec.inTurn_written r.code r.text r.classId r.methodId rest).trans ?_
  simp only [ArgumentCodec.said_short, ArgumentCodec.said_text]

end CloseReason

namespace ReturnReason

def layout : ArgumentLayout :=
  [(.replyCode, .number), (.replyText, .string), (.exchange, .string), (.routingKey, .string)]

theorem decode_eq : decode = ArgumentCodec.inTurn (.short .replyCode) (.text .replyText)
    (.text .exchange) (.text .routingKey) mk := rfl

theorem governs : layout.Governs decode encode := by
  rw [decode_eq]
  exact ArgumentCodec.governs_inTurn (A := .short .replyCode) (B := .text .replyText)
    (C := .text .exchange) (D := .text .routingKey) fun _ _ _ _ => rfl

theorem decode_written (r : ReturnReason) (rest : Octets) :
    decode (r.encode ++ rest) = .ok
      { r with
        text := ShortString.cut r.text
        exchange := ShortString.cut r.exchange
        routingKey := ShortString.cut r.routingKey } := by
  rw [decode_eq]
  refine (ArgumentCodec.inTurn_written r.code r.text r.exchange r.routingKey rest).trans ?_
  simp only [ArgumentCodec.said_short, ArgumentCodec.said_text]

end ReturnReason

/-- Both kinds of arguments are accepted just if all their fields are there, whatever stands behind
them; otherwise the first field that is cut off is named. Fields whose texts are UTF-8 are written
as they were read. For the arguments of a close, the third octet tells how long they must be. -/
theorem arguments_accepted :
    CloseReason.layout.Governs CloseReason.decode CloseReason.encode ∧
    ReturnReason.layout.Governs ReturnReason.decode ReturnReason.encode ∧
    ∀ bs, (∃ r, CloseReason.decode bs = .ok r) ↔
      ∃ n, bs[2]? = some n ∧ 7 + n.toNat ≤ bs.length :=
  ⟨CloseReason.governs, ReturnReason.governs, fun bs =>
    (CloseReason.governs.accepts bs).trans (CloseReason.holds_iff bs)⟩

/-- What is written is read with each text cut for itself, whatever stands behind it, and written
again it is the same. A text is cut to its longest beginning in whole characters that has 255 octets
at most: it stays as it is if it has no more, and keeps 252 at least if it has. -/
theorem arguments_round_trip :
    (∀ (r : CloseReason) (rest : Octets), CloseReason.decode (r.encode ++ rest) =
      .ok { r with text := ShortString.cut r.text }) ∧
    (∀ (r : ReturnReason) (rest : Octets), ReturnReason.decode (r.encode ++ rest) =
      .ok { r with
        text := ShortString.cut r.text
        exchange := ShortString.cut r.exchange
        routingKey := ShortString.cut r.routingKey }) ∧
    (∀ r read : CloseReason, CloseReason.decode r.encode = .ok read → read.encode = r.encode) ∧
    (∀ r read : ReturnReason, ReturnReason.decode r.encode = .ok read → read.encode = r.encode) ∧
    ∀ text, Utf8.Longest 255 text (ShortString.cut text) ∧
      ((Utf8.encode text).length ≤ 255 → ShortString.cut text = text) ∧
      (255 < (Utf8.encode text).length → 252 ≤ (Utf8.encode (ShortString.cut text)).length) := by
  refine ⟨CloseReason.decode_written, ReturnReason.decode_written, fun r read ok => ?_,
    fun r read ok => ?_, fun text => ?_⟩
  · have cut := CloseReason.decode_written r []
    rw [List.append_nil, ok] at cut
    rw [Except.ok.inj cut, CloseReason.encode, ShortString.encode_cut, CloseReason.encode]
  · have cut := ReturnReason.decode_written r []
    rw [List.append_nil, ok] at cut
    rw [Except.ok.inj cut, ReturnReason.encode, ShortString.encode_cut, ShortString.encode_cut,
      ShortString.encode_cut, ReturnReason.encode]
  · have longest := ShortString.longest_cut text
    exact ⟨longest, ShortString.cut_of_fits, fun long => by
      have room := longest.lt_of_not_fits long
      omega⟩

/-- Two of three texts are too long, by characters of two and of three octets. -/
theorem arguments_round_trip_long :
    let e := String.ofList (List.replicate 200 'é')
    let euro := String.ofList (List.replicate 86 '€')
    let r : ReturnReason := ⟨312, e, "", euro⟩
    255 < (Utf8.encode e).length ∧ (Utf8.encode "").length ≤ 255 ∧
    252 ≤ (Utf8.encode (ShortString.cut e)).length ∧
    ReturnReason.decode r.encode = .ok ⟨312, ShortString.cut e, "", ShortString.cut euro⟩ ∧
    ReturnReason.encode ⟨312, ShortString.cut e, "", ShortString.cut euro⟩ = r.encode := by
  intro e euro r
  obtain ⟨-, read, -, written, cuts⟩ := arguments_round_trip
  have long : 255 < (Utf8.encode e).length := by
    rw [Utf8.encode_ofList]
    decide +kernel
  have short : (Utf8.encode "").length ≤ 255 := by decide
  have same := (cuts "").2.1 short
  have decoded := read r []
  rw [List.append_nil, same] at decoded
  exact ⟨long, short, (cuts e).2.2 long, decoded, written r _ decoded⟩

end Multiplex
