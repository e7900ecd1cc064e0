import Marketfeed.Model.Fixed

/-!
# Identifiers, market events and system events

Model of `crates/model/src/{ids,time,flags,events,instrument}.rs`: the vocabulary every other
module speaks. Market events travel in an `EventEnvelope`; system events are a separate stream.

An instrument keeps the fields that sessions read (its id, its native symbol and its two scales);
the other catalog columns are consulted by no modelled function.

Here and in the other modules a definition has the name the source has for it. Where the name does
not tell which part of the source a definition models, its docstring does.
-/

namespace Marketfeed

/-! ## Identifiers and time -/

structure VenueId where
  val : UInt16
deriving DecidableEq

structure InstrumentId where
  val : UInt32
deriving DecidableEq

structure ConnectionId where
  val : UInt64
deriving DecidableEq

structure SessionId where
  val : UInt64
deriving DecidableEq

structure SourceId where
  val : String
deriving DecidableEq

structure SequenceRange where
  first : UInt64
  last : UInt64
deriving DecidableEq

/-- Wall-clock nanoseconds. -/
structure TimestampNs where
  ns : Int
deriving DecidableEq

structure FrameStamp where
  receiveTs : TimestampNs
  monoNs : UInt64
deriving DecidableEq

/-- A saturating `i64` result.
Source: `i64::saturating_add`, `i64::saturating_mul` -/
def satI64 (x : Int) : Int := max (-(2 ^ 63)) (min x (2 ^ 63 - 1))

/-- Quality and provenance flags, one bit each. -/
structure EventFlags where
  bits : UInt32
deriving DecidableEq

namespace EventFlags

def snapshot : EventFlags := ⟨1⟩
def delta : EventFlags := ⟨2⟩
def empty : EventFlags := ⟨0⟩

end EventFlags

/-- The catalog columns a session reads. -/
structure Instrument where
  id : InstrumentId
  nativeSymbol : String
  priceScale : Nat
  quantityScale : Nat
deriving DecidableEq

inductive InstrumentStatus
  | active
  | suspended
  | expired
  | delisted
  | unknown
deriving DecidableEq

/-! ## Market events -/

inductive AggressorSide
  | buy
  | sell
  | unknown
deriving DecidableEq

structure Trade where
  price : Price
  quantity : Quantity
  aggressor : AggressorSide
  tradeId : Option SourceId
deriving DecidableEq

structure Quote where
  bidPrice : Price
  bidQuantity : Option Quantity
  askPrice : Price
  askQuantity : Option Quantity
deriving DecidableEq

structure BookLevel where
  price : Price
  quantity : Quantity
deriving DecidableEq

inductive BookSide
  | bid
  | ask
deriving DecidableEq

inductive BookOperation
  | upsert
  | delete
deriving DecidableEq

structure BookChange where
  side : BookSide
  operation : BookOperation
  price : Price
  quantity : Option Quantity
deriving DecidableEq

structure BookSnapshot where
  bids : List BookLevel
  asks : List BookLevel
  depth : Option Nat
  checksum : Option SourceId
deriving DecidableEq

structure BookDelta where
  changes : List BookChange
  checksum : Option SourceId
deriving DecidableEq

structure Candle where
  open' : Price
  high : Price
  low : Price
  close : Price
  volume : Quantity
  intervalNs : Int
  startTs : TimestampNs
deriving DecidableEq

structure PricePoint where
  price : Price
deriving DecidableEq

structure Funding where
  rate : Rate
  nextFundingTs : Option TimestampNs
deriving DecidableEq

structure OpenInterest where
  quantity : Quantity
deriving DecidableEq

structure Liquidation where
  price : Price
  quantity : Quantity
  side : AggressorSide
deriving DecidableEq

structure Statistics24h where
  open' : Option Price
  high : Option Price
  low : Option Price
  close : Option Price
  volume : Option Quantity
  quoteVolume : Option Quantity
deriving DecidableEq

inductive MarketEvent
  | trade (t : Trade)
  | quote (q : Quote)
  | bookSnapshot (s : BookSnapshot)
  | bookDelta (d : BookDelta)
  | candle (c : Candle)
  | markPrice (p : PricePoint)
  | indexPrice (p : PricePoint)
  | funding (f : Funding)
  | openInterest (o : OpenInterest)
  | liquidation (l : Liquidation)
  | statistics24h (s : Statistics24h)
  | instrumentUpdate (status : InstrumentStatus)
  | venueStatus (message : String)
deriving DecidableEq

structure EventEnvelope where
  schemaVersion : Nat
  venue : VenueId
  instrument : Option InstrumentId
  connection : ConnectionId
  session : SessionId
  frameSeq : UInt64
  eventIndex : Nat
  exchangeTs : Option TimestampNs
  receiveTs : TimestampNs
  sourceSequence : Option SequenceRange
  flags : EventFlags
  payload : MarketEvent
deriving DecidableEq

/-! ## System events -/

/-- Operational events, a stream of their own. -/
inductive SystemEvent
  | engineStateChanged (state : String)
  | connectionStateChanged (state : String)
  | subscriptionStateChanged (state : String)
  | instrumentCatalogUpdated (version : UInt64)
  | heartbeatMissed
  | rateLimited
  | parseError (detail : String)
  | unknownMessage (detail : String)
  | sequenceGap (expected actual : UInt64)
  | checksumMismatch (detail : String)
  | bookInvalidated (instrument : InstrumentId) (reason : String)
  | bookSnapshotRejected (instrument : InstrumentId) (reason : String)
  | bookResynchronized (instrument : InstrumentId)
  | queuePressure (detail : String)
  | eventsDropped (count : Nat) (detail : String)
  | recordingRotated
  | diskPressure
  | clockJump (deltaNs : Int)
  | sinkStateChanged (state : String)
  | shutdownStarted
  | shutdownCompleted
deriving DecidableEq

end Marketfeed
