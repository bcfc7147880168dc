import GivenNames.Main
import GivenNames.Proofs.Order
import GivenNames.Proofs.SameTable
import GivenNames.Proofs.Json.Tokens
import GivenNames.Proofs.Json.Written
import GivenNames.Proofs.Json.Printed
import GivenNames.Proofs.Calls
import GivenNames.Proofs.Service
import GivenNames.Proofs.Source.Json
import GivenNames.Proofs.Source.TextTables
import GivenNames.Proofs.Source.Sample
import GivenNames.Proofs.Judging
import GivenNames.Proofs.Spellings
import GivenNames.Proofs.Relaxing
import GivenNames.Proofs.Registry
import GivenNames.Proofs.Districts
import GivenNames.Proofs.Tally.Regrouping
import GivenNames.Proofs.Grouping
import GivenNames.Proofs.Conservation
import GivenNames.Proofs.Popularity
import GivenNames.Proofs.Requests
import GivenNames.Proofs.Messages
import GivenNames.Proofs.Unreadable
import GivenNames.Proofs.Warnings
import GivenNames.Proofs.Spread
import GivenNames.Proofs.Accumulation
import GivenNames.Proofs.Json.Bounds
import GivenNames.Proofs.Verdicts
import GivenNames.Proofs.Source.Cells
import GivenNames.Proofs.Source.TypedTables
import GivenNames.Proofs.Source.Arrangements
import GivenNames.Proofs.Json.Records
import GivenNames.Proofs.Json.Refused
import GivenNames.Proofs.Source.GivenRows
import GivenNames.Proofs.Source.Headers
import GivenNames.Proofs.DistrictCodes
import GivenNames.Proofs.Source.RecordLines
