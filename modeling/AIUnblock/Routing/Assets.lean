import AIUnblock.Routing.GeoHideRoutingRules

/-! # The shipped rule assets

The lines of the two assets that `load` reads.
-/

namespace AIUnblock

/-- `assets/geohide_domains.txt`. -/
def geohideDomainsAsset : List String :=
  [ "37signals.com", "aave.com", "access.broadcom.com", "adobe.io", "affinity.studio",
    "ai.google.dev", "aisandbox-pa.googleapis.com", "aistudio.google.com",
    "aitestkitchen.withgoogle.com", "alkalicore-pa.clients6.google.com",
    "alkalimakersuite-pa.clients6.google.com", "amd.com", "analog.com", "anthropic.com",
    "antigravity.google", "api.cdnlibs.org", "api.fitbit.com", "api.home-connect.com",
    "api.imgur.com", "api.jetbrains.ai", "api.radarr.video", "api.trae.ai", "api.workos.com",
    "api16-normal-alisg.mchost.guru", "apis.google.com", "api-sg-central.trae.ai",
    "app.zerossl.com", "appcatalyst.pa.googleapis.com", "arkoselabs.com", "arrow.com",
    "assistant-s3-pa.googleapis.com", "astockcdn.net", "atlassian.com", "auth.xboxlive.com",
    "autodesk.com", "autodesk.net", "avast.com", "avast.ru", "aybest.xyz", "badoo.app",
    "badoo.com", "badoocdn.com", "bard.google.com", "basecamp.com", "basecampapi.com",
    "behance.net", "bestbuy.com", "bike24.com", "bike-components.de", "blogs.sap.com",
    "brave.com", "buf.build", "builds.parsec.app", "bumble.com", "buymeacoffee.com",
    "canva.com", "canva.dev", "canva-apps.com", "capcut.com", "cdn.auth0.com",
    "cdn.web-platform.io", "cerebras.ai", "chatgpt.com", "chess.com", "cici.com",
    "ciscobinary.openh264.org", "claude.ai", "claude.com", "claudemcpclient.com",
    "clickup.com", "cms-images.mmst.eu", "codeium.com", "community.sap.com",
    "consent.trustarc.com", "console.neon.tech", "controlplane.tailscale.com",
    "copilot.microsoft.com", "coreweave.com", "corsair.com", "crunchyroll.com", "cummins.com",
    "d.docs.live.net", "daily-cloudcode-pa.googleapis.com", "datastudio.google.com",
    "deepl.app", "deepl.com", "deepmind.com", "deepmind.google", "deezer.com", "dell.com",
    "dellcdn.com", "deniko.xyz", "designer.microsoft.com", "designerapp.officeapps.live.com",
    "designify.com", "developer.nvidia.com", "developerprofiles-pa.googleapis.com",
    "digikey.com", "digikeyassets.com", "dl.teamviewer.com", "dnsspeedtest.online", "dola.com",
    "download.teamviewer.com", "dr.miromind.ai", "dtm8.dinamicagenerale.com", "dyson.com",
    "dyson.de", "dyson.se", "ecosia.org", "ecs.office.com", "edgeservices.bing.com",
    "efsanetv.xyz", "elevenlabs.io", "elevenreader.io", "elgato.com", "elmastvnet.xyz",
    "eneba.com", "etsy.com", "eu.posthog.com", "euro.com.pl", "evike.com", "eyyo.xyz",
    "f00.esfr.pl", "fal.ai", "files.manuscdn.com", "files-s2pb.pbsync.com",
    "fitbit.google.com", "fitbit-pa.googleapis.com", "fitbitvestibuleshim-pa.googleapis.com",
    "flow.google", "flowmusic.app", "fmhy.net", "formula1.com", "framer.com", "g2a.com",
    "game8.co", "gamestop.com", "geller-pa.googleapis.com", "gemini.google",
    "gemini.google.com", "generativeai.google", "generativelanguage.googleapis.com",
    "genspark.ai", "geolocation.onetrust.com", "gpt3-openai.com", "gql.twitch.tv", "grok.com",
    "grok.x.com", "gssv-play-prod.xboxlive.com", "guidedhacking.com", "guilded.gg",
    "hapi.hentaicdn.org", "hume.ai", "ikea.com", "images.contentstack.io", "img.modivo.cloud",
    "indeed.com", "intel.com", "intel.de", "intel.se", "iperf3serverlist.net", "jetbrains.com",
    "jetbrains.space", "jules.google", "jules.google.com", "kaleido.ai",
    "knowledge.broadcom.com", "labs.google", "labs.google.com", "last.fm", "lego.com",
    "linear.app", "linguee.com", "lookerstudio.google.com", "m3u.in", "madmapper.com",
    "make.com", "makersuite.google.com", "malwarebytes.com", "manus.im", "manybooks.net",
    "mediaexpert.pl", "mediamarkt.pl", "meta.ai", "minicircuits.com", "misterfpga.org",
    "modivo.pl", "mongodb.com", "monica.im", "mouser.com", "myjetbrains.com", "n8n.cloud",
    "naukimg.com", "naukri.com", "ndi.tv", "ndi.video", "netapp.com", "notebook.google",
    "notebook.google.com", "notebooklm.google", "notebooklm.google.com",
    "notebooklm-pa.googleapis.com", "notebook-pa.googleapis.com", "notion.com", "notion.so",
    "o.pki.goog", "oaistatic.com", "oaiusercontent.com", "octanorm.com", "octanorm.expo.shop",
    "opal.google", "opal.google.com", "opal.withgoogle.com", "openai.com",
    "openaiapi-site.azureedge.net", "openaipublic.blob.core.windows.net", "openrouter.ai",
    "oracle.com", "padi.com", "pandasecurity.com", "pcmag.com",
    "people-pa.clients6.google.com", "pi.ai", "platform.parallel.ai", "powertoolsuk.co.uk",
    "ppkas.com", "pr0gramm.com", "proactivebackend-pa.googleapis.com", "profile.broadcom.com",
    "promods.net", "prowlarr.servarr.com", "pump.fun", "qualtrics.com", "qwant.com",
    "remove.bg", "res.cloudinary.com", "reve.art", "reve.com", "rewards.bing.com",
    "robinfrontend-pa.googleapis.com", "romsgames.net", "scdn.co", "scribd.com",
    "scribdassets.com", "se.com", "securitytrails.com", "signaler-pa.clients6.google.com",
    "singlekey-id.com", "sketchup.com", "slack.com", "slackb.com", "spotify.com",
    "spotifycdn.com", "spotifycdn.net", "squareup.com", "stitch.withgoogle.com", "strava.com",
    "superpharm.eu", "superpharm.pl", "support.broadcom.com", "sydney.bing.com", "tableau.com",
    "ti.com", "titlestorage.xboxlive.com", "trae-api-sg.mchost.guru", "tria.ge", "trimble.com",
    "trueachievements.com", "truthsocial.com", "tuta.com", "uainvest.com.ua", "ultimaker.com",
    "unscreen.com", "usher.ttvnw.net", "vipvera.com", "waa-pa.clients6.google.com",
    "wbagora.com", "wbgames.com", "weather.com", "web.archive.org",
    "webchannel-alkalimakersuite-pa.clients6.google.com", "weborama.nl", "whimsical.com",
    "windguru.cz", "windsurf.com", "wise.com", "ws.audioscrobbler.com", "wund.com",
    "wunderground.com", "www.cgtrader.com", "www.qwant.com", "w-x.co", "wxug.com", "x.ai",
    "xboxdesignlab.xbox.com", "xerox.com", "xgpuweb.gssv-play-prod.xboxlive.com",
    "xgpuwebf2p.gssv-play-prod.xboxlive.com", "xiaomi.eu", "xsts.auth.xboxlive.com",
    "yeggi.com", "yupp.ai", "zapier.com", "zapier-deployment.com" ]

/-- `assets/geohide_hosts.txt`. -/
def geohideHostsAsset : List String :=
  [ "103.27.157.38 accounts.supercell.com", "103.27.157.38 api.github.com",
    "103.27.157.38 api.tidal.com", "103.27.157.38 auth.tidal.com",
    "103.27.157.38 cdn.id.supercell.com", "103.27.157.38 clashofclans.inbox.supercell.com",
    "103.27.157.38 controlplane.tailscale.com", "103.27.157.38 dd.tidal.com",
    "103.27.157.38 developers.openai.com", "103.27.157.38 game-assets.brawlstarsgame.com",
    "103.27.157.38 game-assets.clashofclans.com",
    "103.27.157.38 game-assets.clashroyaleapp.com", "103.27.157.38 images.tidal.com",
    "103.27.157.38 link.tidal.com", "103.27.157.38 listen.tidal.com",
    "103.27.157.38 login.tidal.com", "103.27.157.38 resources.tidal.com",
    "103.27.157.38 security.id.supercell.com", "103.27.157.38 store.supercell.com",
    "103.27.157.38 www.canva.com", "103.27.157.38 www.dyson.fr",
    "103.27.157.38 www.tiktok.com", "108.61.167.26 game.squadbustersgame.com",
    "130.255.77.28 ntc.party", "157.240.245.174 b.i.instagram.com",
    "157.240.245.174 help.instagram.com", "157.240.245.174 instagram.com",
    "157.240.245.174 www.instagram.com", "157.240.245.174 z-p42-chat-e2ee-ig.facebook.com",
    "172.64.33.155 d.rutor.info", "185.246.223.127 codeium.com",
    "185.246.223.127 game.brawlstarsgame.com", "185.246.223.127 linear.app",
    "185.246.223.127 patreon.com", "185.246.223.127 windsurf.com",
    "185.246.223.127 www.patreon.com", "185.31.40.18 test.dns.malw.link",
    "193.23.209.189 gamea.clashofclans.com", "37.230.192.51 account.jetbrains.com",
    "37.230.192.51 accounts.autodesk.com", "37.230.192.51 api.jetbrains.ai",
    "37.230.192.51 api.spotify.com", "37.230.192.51 api.squareup.com",
    "37.230.192.51 auth0.openai.com", "37.230.192.51 cdn.platform.openai.com",
    "37.230.192.51 checkout.www.deepl.com", "37.230.192.51 claude.ai",
    "37.230.192.51 clearance.deepl.com", "37.230.192.51 edgeservices.bing.com",
    "37.230.192.51 manus.im", "37.230.192.51 open.spotify.com", "37.230.192.51 ott.deepl.com",
    "37.230.192.51 platform.claude.com", "37.230.192.51 pump.fun",
    "37.230.192.51 sydney.bing.com", "37.230.192.51 tria.ge",
    "37.230.192.51 videos.openai.com", "37.230.192.51 voice-proxy.www.deepl.com",
    "37.230.192.51 web.archive.org", "37.230.192.51 www.qwant.com",
    "37.230.192.51 www2.deepl.com", "45.155.204.190 a.claude.ai",
    "45.155.204.190 ab.chatgpt.com", "45.155.204.190 accounts.scdn.co",
    "45.155.204.190 accounts.spotify.com", "45.155.204.190 accounts.x.ai",
    "45.155.204.190 aet.spotify.com", "45.155.204.190 android.chat.openai.com",
    "45.155.204.190 api.anthropic.com", "45.155.204.190 api.elevenlabs.io",
    "45.155.204.190 api.imgur.com", "45.155.204.190 api.individual.githubcopilot.com",
    "45.155.204.190 api.manus.im", "45.155.204.190 api.openai.com",
    "45.155.204.190 api.trae.ai", "45.155.204.190 api.us.elevenlabs.io",
    "45.155.204.190 api16-normal-alisg.mchost.guru", "45.155.204.190 api-free.deepl.com",
    "45.155.204.190 api-global.squareup.com", "45.155.204.190 api-partner.spotify.com",
    "45.155.204.190 api-sg-central.trae.ai", "45.155.204.190 app.notion.com",
    "45.155.204.190 assets.grok.com", "45.155.204.190 auth.deepl.com",
    "45.155.204.190 auth.openai.com", "45.155.204.190 backend.deepl.com",
    "45.155.204.190 builds.parsec.app", "45.155.204.190 calendar.notion.so",
    "45.155.204.190 cdn.oaistatic.com", "45.155.204.190 chatgpt.com",
    "45.155.204.190 client-api.linear.app", "45.155.204.190 console.anthropic.com",
    "45.155.204.190 constellation.linear.app",
    "45.155.204.190 content-management-files.canva.com",
    "45.155.204.190 copilot.microsoft.com", "45.155.204.190 datalore.jetbrains.com",
    "45.155.204.190 deepl.com", "45.155.204.190 deezer.com",
    "45.155.204.190 developer.nvidia.com", "45.155.204.190 dict.deepl.com",
    "45.155.204.190 download.jetbrains.com", "45.155.204.190 dyson.com",
    "45.155.204.190 elevenlabs.io", "45.155.204.190 elevenreader.io",
    "45.155.204.190 encore.scdn.co", "45.155.204.190 errortracking.deepl.com",
    "45.155.204.190 experimentation.deepl.com",
    "45.155.204.190 experimentation-grpc.deepl.com", "45.155.204.190 files.oaiusercontent.com",
    "45.155.204.190 framer.com", "45.155.204.190 frontend-api-v3.pump.fun",
    "45.155.204.190 geolocation.onetrust.com", "45.155.204.190 gew1-dealer.spotify.com",
    "45.155.204.190 gew1-spclient.spotify.com", "45.155.204.190 gql.twitch.tv",
    "45.155.204.190 grok.com", "45.155.204.190 gtm.deepl.com",
    "45.155.204.190 guidedhacking.com", "45.155.204.190 help.elevenlabs.io",
    "45.155.204.190 images.pump.fun", "45.155.204.190 inference.codeium.com",
    "45.155.204.190 ios.chat.openai.com", "45.155.204.190 ita-free.app.deepl.com",
    "45.155.204.190 ita-free.www.deepl.com", "45.155.204.190 login5.spotify.com",
    "45.155.204.190 login-wall.deepl.com", "45.155.204.190 marketplace.windsurf.com",
    "45.155.204.190 oneshot-free.www.deepl.com", "45.155.204.190 operator.chatgpt.com",
    "45.155.204.190 payment.deezer.com", "45.155.204.190 platform.openai.com",
    "45.155.204.190 plugins.jetbrains.com", "45.155.204.190 profile.broadcom.com",
    "45.155.204.190 proxy.individual.githubcopilot.com", "45.155.204.190 public.linear.app",
    "45.155.204.190 rewards.bing.com", "45.155.204.190 s.deepl.com",
    "45.155.204.190 s.linear.app", "45.155.204.190 sdmntpritalynorth.oaiusercontent.com",
    "45.155.204.190 sdmntprnortheu.oaiusercontent.com",
    "45.155.204.190 sdmntprpolandcentral.oaiusercontent.com",
    "45.155.204.190 sdmntprukwest.oaiusercontent.com", "45.155.204.190 server.codeium.com",
    "45.155.204.190 shield.deepl.com", "45.155.204.190 sora.chatgpt.com",
    "45.155.204.190 spclient.wg.spotify.com", "45.155.204.190 static.canva.com",
    "45.155.204.190 static.linear.app", "45.155.204.190 static-assets-1.truthsocial.com",
    "45.155.204.190 swap-api.pump.fun", "45.155.204.190 tcr9i.chat.openai.com",
    "45.155.204.190 trae-api-sg.mchost.guru", "45.155.204.190 truthsocial.com",
    "45.155.204.190 unleash.codeium.com", "45.155.204.190 uploads.linear.app",
    "45.155.204.190 upsx.weather.com", "45.155.204.190 usher.ttvnw.net",
    "45.155.204.190 w.deepl.com", "45.155.204.190 weather.com",
    "45.155.204.190 web-backend.codeium.com", "45.155.204.190 webrtc.chatgpt.com",
    "45.155.204.190 windsurf-stable.codeium.com",
    "45.155.204.190 windsurf-telemetry.codeium.com", "45.155.204.190 write-free.www.deepl.com",
    "45.155.204.190 www.autodesk.com", "45.155.204.190 www.deepl.com",
    "45.155.204.190 www.deezer.com", "45.155.204.190 www.dell.com",
    "45.155.204.190 www.dyson.com", "45.155.204.190 www.elgato.com",
    "45.155.204.190 www.intel.com", "45.155.204.190 www.notion.so",
    "45.155.204.190 www.spotify.com", "45.155.204.190 www-growth.scdn.co",
    "45.155.204.190 xgpuweb.gssv-play-prod.xboxlive.com",
    "45.155.204.190 xgpuwebf2p.gssv-play-prod.xboxlive.com",
    "45.155.204.190 xsts.auth.xboxlive.com", "52.223.13.41 tracker.openbittorrent.com",
    "62.133.62.97 aisandbox-pa.googleapis.com", "62.133.62.97 aistudio.google.com",
    "62.133.62.97 aitestkitchen.withgoogle.com",
    "62.133.62.97 alkalimakersuite-pa.clients6.google.com", "62.133.62.97 api.fitbit.com",
    "62.133.62.97 assistant-s3-pa.googleapis.com", "62.133.62.97 fitbit.google.com",
    "62.133.62.97 fitbit-pa.googleapis.com",
    "62.133.62.97 fitbitvestibuleshim-pa.googleapis.com",
    "62.133.62.97 game.clashroyaleapp.com", "62.133.62.97 game.mocogame.com",
    "62.133.62.97 gemini.google.com", "62.133.62.97 generativelanguage.googleapis.com",
    "62.133.62.97 jules.google.com", "62.133.62.97 labs.google",
    "62.133.62.97 notebooklm.google.com", "62.133.62.97 o.pki.goog",
    "62.133.62.97 proactivebackend-pa.googleapis.com",
    "62.133.62.97 robinfrontend-pa.googleapis.com", "62.133.62.97 stitch.withgoogle.com",
    "62.133.62.97 webchannel-alkalimakersuite-pa.clients6.google.com" ]

/-- The rules of the shipped program. -/
def shippedRules (platform : Platform) : GeoHideRoutingRules :=
  .load platform (geohideDomainsAsset.map String.toList) (geohideHostsAsset.map String.toList)

end AIUnblock
