import BucketVhosts.Main
import BucketVhosts.Vhost.Reading
import BucketVhosts.Proofs.Template.Yield
import BucketVhosts.Proofs.Template.Failures
import BucketVhosts.Proofs.Vhost.Rendering
import BucketVhosts.Proofs.Data.Claims
import BucketVhosts.Proofs.Host.Duplicates
import BucketVhosts.Proofs.Host.Name
import BucketVhosts.Proofs.Host.Grammar
import BucketVhosts.Proofs.Host.Identifier
import BucketVhosts.Proofs.Host.Registry
import BucketVhosts.Proofs.Host.Parent
import BucketVhosts.Proofs.Filter.Calls
import BucketVhosts.Proofs.Vhost.Extra
import BucketVhosts.Proofs.Vhost.Conflict
import BucketVhosts.Proofs.Vhost.Settings
import BucketVhosts.Proofs.Vhost.FirstFailure
import BucketVhosts.Proofs.Site.Valid
import BucketVhosts.Proofs.Site.Report
import BucketVhosts.Proofs.Vhost.Accepted
import BucketVhosts.Proofs.Nginx.Word
import BucketVhosts.Proofs.Nginx.Expression
import BucketVhosts.Proofs.Vhost.Place
import BucketVhosts.Proofs.Vhost.Words
import BucketVhosts.Proofs.Vhost.Collision
import BucketVhosts.Proofs.Vhost.CacheMap
import BucketVhosts.Proofs.Vhost.Locations
import BucketVhosts.Proofs.Vhost.Additions
import BucketVhosts.Proofs.Template.SortedFields
import BucketVhosts.Proofs.Vhost.FieldOrder
import BucketVhosts.Proofs.Site.Loading
import BucketVhosts.Proofs.Site.Dump
import BucketVhosts.Proofs.Files.Output
import BucketVhosts.Proofs.Command.Generate
