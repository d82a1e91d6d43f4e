import Responses2Chat.Handler.Proxy

/-!
# Reading a non-streaming reply

`handleNonStreamingResponse` reads the upstream body with `ReadResponseBody`
(`internal/converter/streaming.go`) and a limit of 10 MB, then decodes it.  The handler model
takes the outcome as a `ReplyBody`; this file says which body gives which outcome.

* `readResponseBody` is the function on a body that yields its bytes and then an error or
  `EOF`.  `maxSize` is an `int64`, kept as `BitVec 64`, so the limit `maxSize+1` it hands
  to `io.LimitReader` wraps at `MaxInt64`.
* `readResponseBody_eq`: for every body and every `maxSize`, a body of at most `maxSize`
  bytes is read whole, a longer one is cut to its first `maxSize` bytes with the `too large`
  error, and a read error below the limit is returned.  Two limits break this: a negative
  `maxSize` panics at `data[:maxSize]`, and `MaxInt64` wraps the limit below zero, so every
  body reads as empty and without error.
* `readReply_eq`: at the handler's 10 MB neither happens; a body longer than 10 MB, or one
  whose read fails, is a `read_error`, and any other body is decoded whole.

A reader that returns its last bytes together with its error in one `Read` is not modelled:
`BodyReader` gives the error on the call after the last byte.
-/

namespace Responses2Chat.Converter

/-- The upstream body as `io.ReadAll` sees it: the bytes it yields, then the error that ends
them (`none` for `io.EOF`). -/
structure BodyReader where
  bytes : List UInt8
  err : Option String := none
  deriving DecidableEq, Repr

/-- `io.ReadAll(io.LimitReader(r, n))`: nothing when `n <= 0`; the first `n` bytes when the
body has that many, since `LimitReader` then answers `EOF` without reading on; otherwise the
whole body and the error that ends it. -/
def limitReadAll (r : BodyReader) (n : Int) : List UInt8 × Option String :=
  if n ≤ 0 then ([], none)
  else if n ≤ r.bytes.length then (r.bytes.take n.toNat, none)
  else (r.bytes, r.err)

/-- What `ReadResponseBody` returns. -/
inductive BodyRead where
  | ok (data : List UInt8)
  /-- `return nil, err`. -/
  | readFailed (err : String)
  /-- `return data[:maxSize], fmt.Errorf(...)`. -/
  | tooLarge (data : List UInt8) (err : String)
  /-- `data[:maxSize]` with `maxSize < 0`: the slice expression panics. -/
  | panic
  deriving DecidableEq, Repr

/-- The error of a body over the limit. -/
def tooLargeError (maxSize : Int) : String :=
  "response body too large, truncated at " ++ toString maxSize ++ " bytes"

/-- `ReadResponseBody`.  `maxSize+1` is an `int64` sum; `int64(len(data))` is exact, a Go
slice being shorter than `2^63`. -/
def readResponseBody (body : BodyReader) (maxSize : BitVec 64) : BodyRead :=
  match limitReadAll body (maxSize + 1).toInt with
  | (_, some err) => .readFailed err
  | (data, none) =>
    if (data.length : Int) > maxSize.toInt then
      if maxSize.toInt < 0 then .panic
      else .tooLarge (data.take maxSize.toInt.toNat) (tooLargeError maxSize.toInt)
    else .ok data

/-- The `int64` sum `maxSize+1`: one more, except at `MaxInt64`, where it wraps to
`MinInt64`. -/
theorem toInt_add_one (x : BitVec 64) :
    (x + 1).toInt = if x.toInt = 2 ^ 63 - 1 then -2 ^ 63 else x.toInt + 1 := by
  have hx := x.isLt
  simp only [BitVec.toInt_eq_toNat_cond, BitVec.toNat_add, show (1 : BitVec 64).toNat = 1 from rfl]
  split_ifs <;> omega

/-- `ReadResponseBody` for every body and limit: a body of at most `maxSize` bytes is read
whole (with its read error, if any), a longer one is cut to `maxSize` bytes with the
`too large` error; a negative `maxSize` panics, and `MaxInt64` reads every body as empty. -/
theorem readResponseBody_eq (body : BodyReader) (maxSize : BitVec 64) :
    readResponseBody body maxSize =
      if maxSize.toInt = 2 ^ 63 - 1 then .ok []
      else if maxSize.toInt < 0 then .panic
      else if maxSize.toInt < body.bytes.length then
        .tooLarge (body.bytes.take maxSize.toInt.toNat) (tooLargeError maxSize.toInt)
      else match body.err with
        | some err => .readFailed err
        | none => .ok body.bytes := by
  rw [readResponseBody, toInt_add_one, limitReadAll]
  by_cases hmax : maxSize.toInt = 2 ^ 63 - 1
  · simp [hmax]
  simp only [hmax, if_false]
  by_cases hneg : maxSize.toInt < 0
  · simp [hneg, show maxSize.toInt + 1 ≤ 0 by omega]
  by_cases hlen : maxSize.toInt < body.bytes.length
  · have htake : (body.bytes.take (maxSize.toInt + 1).toNat).length = maxSize.toInt + 1 := by
      rw [List.length_take]; omega
    simp only [hneg, hlen, if_false, if_true, show ¬maxSize.toInt + 1 ≤ 0 by omega,
      show maxSize.toInt + 1 ≤ body.bytes.length by omega, htake, show maxSize.toInt < maxSize.toInt + 1 by omega,
      gt_iff_lt, List.take_take, show min maxSize.toInt.toNat (maxSize.toInt + 1).toNat = maxSize.toInt.toNat by omega]
  · simp only [hneg, hlen, if_false, show ¬maxSize.toInt + 1 ≤ 0 by omega,
      show ¬maxSize.toInt + 1 ≤ body.bytes.length by omega]
    cases body.err with
    | some err => rfl
    | none => simp only [gt_iff_lt, hlen, if_false]

end Responses2Chat.Converter

namespace Responses2Chat.Handler

open Responses2Chat.Models Responses2Chat.Converter

/-- The reading of the upstream body in `handleNonStreamingResponse`: `ReadResponseBody` with
the 10 MB limit, then `json.Unmarshal` (`unmarshal`); `none` is a panic. -/
def readReply (unmarshal : List UInt8 → Option ChatCompletionResponse) (body : BodyReader) :
    Option ReplyBody :=
  match readResponseBody body (10 * 1024 * 1024) with
  | .ok data =>
    some (match unmarshal data with
      | some chatResp => .parsed chatResp
      | none => .parseError)
  | .readFailed _ | .tooLarge _ _ => some .readError
  | .panic => none

/-- At the 10 MB limit of `handleNonStreamingResponse` reading never panics: a body longer
than 10 MB, or one whose read fails, is a `read_error`, and any other body is decoded whole. -/
theorem readReply_eq (unmarshal : List UInt8 → Option ChatCompletionResponse) (body : BodyReader) :
    readReply unmarshal body =
      some (if 10 * 1024 * 1024 < body.bytes.length ∨ body.err.isSome then .readError
        else match unmarshal body.bytes with
          | some chatResp => .parsed chatResp
          | none => .parseError) := by
  have hsize : (10 * 1024 * 1024 : BitVec 64).toInt = 10 * 1024 * 1024 := rfl
  rw [readReply, readResponseBody_eq, hsize]
  by_cases hlen : 10 * 1024 * 1024 < body.bytes.length
  · simp [hlen, show (10 * 1024 * 1024 : Int) < body.bytes.length by omega]
  · cases body.err <;> simp [hlen, show ¬(10 * 1024 * 1024 : Int) < body.bytes.length by omega]

end Responses2Chat.Handler
