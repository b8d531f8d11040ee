import DocQuery.Value.Make
import DocQuery.Server.Database
import DocQuery.Proofs.Filter.Reloading
import DocQuery.Proofs.Filter.RoundTrip
import DocQuery.Proofs.Filter.Flattening
import DocQuery.Proofs.Filter.Branches
import DocQuery.Proofs.Filter.Outline
import DocQuery.Proofs.Filter.Settling
import DocQuery.Proofs.Pattern.LikeEscaping
import DocQuery.Proofs.Pattern.Literals
import DocQuery.Proofs.Query.Changes
import DocQuery.Proofs.Query.ForeignOptions
import DocQuery.Proofs.Query.Reads
import DocQuery.Proofs.Query.Timeouts
import DocQuery.Proofs.Query.TypeCodes
import DocQuery.Proofs.Stage.Pipelines
import DocQuery.Proofs.Server.Attempts
import DocQuery.Proofs.Server.IndexDrops
import DocQuery.Proofs.Server.IndexNames
